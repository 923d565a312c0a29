/-
**Calls that are alike.**

A call is known by its handle, and which handle it has says nothing about the call.  Two gateways
that tell the same of their calls therefore have the same calls, but for the handles; and what is
decided about the calls is the same for both, because nothing but whether two handles are the same
is ever asked of them.

Main definitions:

* `AudioLink.Call.Alike` — two calls that differ in nothing but their handles;
* `AudioLink.Roster.Alike`, `AudioLink.Survey.Alike` — the same for all calls of a gateway.

Main results:

* `AudioLink.Roster.Alike.get?`, `AudioLink.Roster.Alike.insert`, `AudioLink.Roster.Alike.erase`,
  `AudioLink.Roster.Alike.revise` — looking up and changing;
* `AudioLink.Roster.Alike.acceptWith`, `AudioLink.Roster.Alike.fallback` and others — the actions
  that are chosen are the same;
* `AudioLink.Survey.Alike.complete` — **after a pass the calls are alike again**, and so are those
  that are announced, if no two handles are paired with the same one.
-/

import AudioLink.Call.Control
import AudioLink.Proofs.Call.Reconciled
import Mathlib.Data.List.Forall2

set_option relaxedAutoImplicit false
set_option autoImplicit false

namespace AudioLink

variable {pairs : CallHandle → CallHandle → Prop}

/-- Two calls that differ in nothing but their handles, and these are paired. -/
def Call.Alike (pairs : CallHandle → CallHandle → Prop) (call twin : Call) : Prop :=
  ∃ handle, pairs call.handle handle ∧ twin = { call with handle := handle }

/-- The calls of two rosters are alike, one by one. -/
def Roster.Alike (pairs : CallHandle → CallHandle → Prop) (r twin : Roster) : Prop :=
  List.Forall₂ (Call.Alike pairs) r.calls twin.calls

/-- Two surveys whose calls are alike, and will be as long as the same happens to both. -/
structure Survey.Alike (pairs : CallHandle → CallHandle → Prop) (s twin : Survey) : Prop where
  roster : s.roster.Alike pairs twin.roster
  burst : s.burst.Alike pairs twin.burst
  patience : s.patience = twin.patience
  /-- The handles that one and the other will give out are paired. -/
  supply : ∀ n, pairs ⟨s.issuer, s.issued + n⟩ ⟨twin.issuer, twin.issued + n⟩

/-! ### Lists and options -/

section Lists

variable {α β : Type} {R : α → β → Prop}

theorem find?_alike {p : α → Bool} {q : β → Bool} (hpq : ∀ a b, R a b → p a = q b) {items : List α}
    {twins : List β} (h : List.Forall₂ R items twins) :
    Option.Rel R (items.find? p) (twins.find? q) := by
  induction h with
  | nil => exact .none
  | cons hfirst _ ih =>
      rw [List.find?_cons, List.find?_cons, hpq _ _ hfirst]
      split
      · exact .some hfirst
      · exact ih

theorem map_eq_of_alike {γ : Type} {f : α → γ} {g : β → γ} (hfg : ∀ a b, R a b → f a = g b)
    {items : List α} {twins : List β} (h : List.Forall₂ R items twins) :
    items.map f = twins.map g := by
  induction h with
  | nil => rfl
  | cons hfirst _ ih => rw [List.map_cons, List.map_cons, hfg _ _ hfirst, ih]

theorem filter_alike {p : α → Bool} {q : β → Bool} (hpq : ∀ a b, R a b → p a = q b)
    {items : List α} {twins : List β} (h : List.Forall₂ R items twins) :
    List.Forall₂ R (items.filter p) (twins.filter q) :=
  List.rel_filter (fun a b halike => Bool.eq_iff_iff.1 (hpq a b halike)) h

/-- What is found in one place and in the other is alike, or nothing is found in either. -/
theorem none_or_some {a : Option α} {b : Option β} (h : Option.Rel R a b) :
    a = none ∧ b = none ∨ ∃ item twin, a = some item ∧ b = some twin ∧ R item twin := by
  cases h with
  | none => exact .inl ⟨rfl, rfl⟩
  | some halike => exact .inr ⟨_, _, rfl, rfl, halike⟩

theorem isSome_eq_of_alike {a : Option α} {b : Option β} (h : Option.Rel R a b) :
    a.isSome = b.isSome := by
  cases h <;> rfl

theorem or_alike {a a' : Option α} {b b' : Option β} (h : Option.Rel R a b)
    (h' : Option.Rel R a' b') : Option.Rel R (a.or a') (b.or b') := by
  cases h with
  | none => exact h'
  | some hsome => exact .some hsome

end Lists

/-! ### Calls -/

namespace Call.Alike

variable {call twin : Call}

theorem index (h : call.Alike pairs twin) : twin.index = call.index := by
  obtain ⟨_, -, rfl⟩ := h
  rfl

theorem state (h : call.Alike pairs twin) : twin.state = call.state := by
  obtain ⟨_, -, rfl⟩ := h
  rfl

theorem ended (h : call.Alike pairs twin) : call.ended.Alike pairs twin.ended := by
  obtain ⟨handle, hpaired, rfl⟩ := h
  exact ⟨handle, hpaired, rfl⟩

theorem mark (h : call.Alike pairs twin) (multiparty : Bool) :
    Call.Alike pairs { call with multiparty := multiparty }
      { twin with multiparty := multiparty } := by
  obtain ⟨handle, hpaired, rfl⟩ := h
  exact ⟨handle, hpaired, rfl⟩

theorem move (h : call.Alike pairs twin) (index : CallIndex) :
    Call.Alike pairs { call with index := index } { twin with index := index } := by
  obtain ⟨handle, hpaired, rfl⟩ := h
  exact ⟨handle, hpaired, rfl⟩

theorem absorb {report twinReport : Call} (h : call.Alike pairs twin)
    (hreport : report.Alike pairs twinReport) :
    (call.absorb report).Alike pairs (twin.absorb twinReport) := by
  obtain ⟨handle, hpaired, rfl⟩ := h
  obtain ⟨_, -, rfl⟩ := hreport
  exact ⟨handle, hpaired, rfl⟩

/-- No two handles are paired with the same one, so that calls are told apart alike. -/
theorem eq_iff (hpairs : Relator.BiUnique pairs) {other twinOther : Call}
    (h : call.Alike pairs twin) (hother : other.Alike pairs twinOther) :
    call = other ↔ twin = twinOther := by
  obtain ⟨handle, hpaired, rfl⟩ := h
  obtain ⟨handle', hpaired', rfl⟩ := hother
  constructor
  · rintro rfl
    rw [hpairs.2 hpaired hpaired']
  · intro heq
    have hsame : handle = handle' := congrArg Call.handle heq
    subst hsame
    have hhandle : call.handle = other.handle := hpairs.1 hpaired hpaired'
    cases call
    cases other
    cases hhandle
    simpa using heq

theorem some_eq_iff (hpairs : Relator.BiUnique pairs) {found twinFound : Option Call}
    (hfound : Option.Rel (Call.Alike pairs) found twinFound) (h : call.Alike pairs twin) :
    found = some call ↔ twinFound = some twin := by
  cases hfound with
  | none => exact ⟨nofun, nofun⟩
  | some hsome => simpa using hsome.eq_iff hpairs h

end Call.Alike

theorem ended_alike {calls twins : List Call} (h : List.Forall₂ (Call.Alike pairs) calls twins) :
    List.Forall₂ (Call.Alike pairs) (calls.map Call.ended) (twins.map Call.ended) :=
  List.forall₂_map_left_iff.2 (List.forall₂_map_right_iff.2 (h.imp fun _ _ halike => halike.ended))

/-! ### Rosters -/

namespace Roster.Alike

variable {r twin : Roster}

theorem empty : Roster.empty.Alike pairs Roster.empty := .nil

/-! #### Looking up -/

theorem get? (h : r.Alike pairs twin) (index : CallIndex) :
    Option.Rel (Call.Alike pairs) (r.get? index) (twin.get? index) :=
  find?_alike (fun _ _ halike => by rw [halike.index]) h

theorem findIn (h : r.Alike pairs twin) (states : List CallState) :
    Option.Rel (Call.Alike pairs) (r.findIn states) (twin.findIn states) :=
  find?_alike (fun _ _ halike => by rw [halike.state]) h

theorem contains (h : r.Alike pairs twin) (index : CallIndex) :
    r.contains index = twin.contains index :=
  isSome_eq_of_alike (h.get? index)

theorem size (h : r.Alike pairs twin) : r.size = twin.size := List.Forall₂.length_eq h

theorem isEmpty (h : r.Alike pairs twin) : r.isEmpty = twin.isEmpty := by
  rw [Bool.eq_iff_iff, Roster.isEmpty, Roster.isEmpty, List.isEmpty_iff_length_eq_zero,
    List.isEmpty_iff_length_eq_zero, List.Forall₂.length_eq h]

theorem numbers (h : r.Alike pairs twin) : r.numbers = twin.numbers := by
  have hindices : r.calls.map (·.index) = twin.calls.map (·.index) :=
    map_eq_of_alike (fun _ _ halike => halike.index.symm) h
  simpa only [Roster.numbers, List.filterMap_map, Function.comp_def] using
    congrArg (List.filterMap CallIndex.number?) hindices

theorem states (h : r.Alike pairs twin) : r.calls.map (·.state) = twin.calls.map (·.state) :=
  map_eq_of_alike (fun _ _ halike => halike.state.symm) h

theorem hasState (h : r.Alike pairs twin) (state : CallState) :
    r.hasState state = twin.hasState state := by
  simpa only [Roster.hasState, List.any_map, Function.comp_def] using
    congrArg (List.any · (· == state)) h.states

theorem countIn (h : r.Alike pairs twin) (state : CallState) :
    r.countIn state = twin.countIn state := by
  simpa only [Roster.countIn, List.countP_map, Function.comp_def] using
    congrArg (List.countP (· == state)) h.states

/-! #### Changing -/

theorem place {call twinCall : Call} (hcall : call.Alike pairs twinCall) {calls twins : List Call}
    (h : List.Forall₂ (Call.Alike pairs) calls twins) :
    List.Forall₂ (Call.Alike pairs) (Roster.place call calls) (Roster.place twinCall twins) := by
  induction h with
  | nil => exact .cons hcall .nil
  | cons hfirst hrest ih =>
      simp only [Roster.place, hcall.index, hfirst.index]
      split
      · exact .cons hcall (.cons hfirst hrest)
      · split
        · exact .cons hcall hrest
        · exact .cons hfirst ih

theorem insert (h : r.Alike pairs twin) {call twinCall : Call} (hcall : call.Alike pairs twinCall) :
    (r.insert call).Alike pairs (twin.insert twinCall) :=
  place hcall h

theorem erase (h : r.Alike pairs twin) (index : CallIndex) :
    (r.erase index).Alike pairs (twin.erase index) :=
  filter_alike (fun _ _ halike => by rw [halike.index]) h

theorem revise (h : r.Alike pairs twin) {f g : Call → Call}
    (hfg : ∀ call twin, call.Alike pairs twin → (f call).Alike pairs (g twin)) :
    (r.revise f).Alike pairs (twin.revise g) :=
  List.forall₂_map_left_iff.2 <| List.forall₂_map_right_iff.2 <| List.Forall₂.imp
    (fun call twin halike => halike.index ▸ (hfg call twin halike).move call.index) h

/-! #### Choosing an action -/

theorem acceptable (h : r.Alike pairs twin) :
    Option.Rel (Call.Alike pairs) r.acceptable twin.acceptable :=
  or_alike (h.findIn _) (h.findIn _)

theorem acceptWith (h : r.Alike pairs twin) (mode : AcceptMode) :
    r.acceptWith mode = twin.acceptWith mode := by
  rcases none_or_some h.acceptable with ⟨hnone, hnone'⟩ | ⟨call, twinCall, hsome, hsome', halike⟩
  · simp only [Roster.acceptWith, hnone, hnone', Option.bind_eq_bind, Option.bind_none]
  · simp only [Roster.acceptWith, hsome, hsome', Option.bind_eq_bind, Option.bind_some,
      halike.state, h.hasState]

theorem reject (h : r.Alike pairs twin) : r.reject = twin.reject := by
  rcases none_or_some (h.findIn [.incoming, .waiting, .responseHeld, .held]) with
    ⟨hnone, hnone'⟩ | ⟨call, twinCall, hsome, hsome', halike⟩
  · rw [Roster.reject, Roster.reject, hnone, hnone']
  · simp only [Roster.reject, hsome, hsome', Option.bind_eq_bind, Option.bind_some, halike.state]

theorem hold (h : r.Alike pairs twin) : r.hold = twin.hold := by
  simp only [Roster.hold, h.hasState]

theorem terminate (h : r.Alike pairs twin) (number : Option Nat) :
    r.terminate number = twin.terminate number := by
  cases number with
  | none =>
      rcases none_or_some (h.findIn [.dialing, .alerting, .active]) with
        ⟨hnone, hnone'⟩ | ⟨call, twinCall, hsome, hsome', -⟩
      · rw [Roster.terminate, Roster.terminate, hnone, hnone']
      · rw [Roster.terminate, Roster.terminate, hsome, hsome']
        rfl
  | some number =>
      rcases none_or_some (h.get? (.peer number)) with
        ⟨hnone, hnone'⟩ | ⟨call, twinCall, hsome, hsome', halike⟩
      · rw [Roster.terminate, Roster.terminate, hnone, hnone']
      · simp only [Roster.terminate, hsome, hsome', Option.bind_eq_bind, Option.bind_some,
          halike.state]

theorem privateMode (h : r.Alike pairs twin) (number : Nat) :
    r.privateMode number = twin.privateMode number := by
  rcases none_or_some (h.get? (.peer number)) with
    ⟨hnone, hnone'⟩ | ⟨call, twinCall, hsome, hsome', ⟨handle, -, rfl⟩⟩
  · rw [Roster.privateMode, Roster.privateMode, hnone, hnone']
  · rw [Roster.privateMode, Roster.privateMode, hsome, hsome']
    rfl

theorem transfer (h : r.Alike pairs twin) : r.transfer = twin.transfer := by
  simp only [Roster.transfer, h.size]

theorem fallback (h : r.Alike pairs twin) (policy : AcceptRetry) (refused : CallControl) :
    policy.fallback refused r = policy.fallback refused twin := by
  simp only [AcceptRetry.fallback, h.hasState, h.size]

end Roster.Alike

/-! ### Surveys -/

namespace Survey.Alike

variable {s twin : Survey}

theorem nextHandle (h : s.Alike pairs twin) : pairs s.nextHandle twin.nextHandle := h.supply 0

/-- After a handle was given out, the others are still to come. -/
theorem supply_succ (h : s.Alike pairs twin) (n : Nat) :
    pairs ⟨s.issuer, s.issued + 1 + n⟩ ⟨twin.issuer, twin.issued + 1 + n⟩ := by
  simpa only [Nat.add_right_comm, Nat.add_assoc] using h.supply (n + 1)

/-! #### Between two passes -/

theorem begin (h : s.Alike pairs twin) : s.begin.Alike pairs twin.begin :=
  ⟨h.roster, .empty, h.patience, h.supply⟩

theorem record (h : s.Alike pairs twin) (report : CallReport) (now : Instant) :
    (s.record report now).Alike pairs (twin.record report now) :=
  ⟨h.roster, h.burst.insert ⟨_, h.nextHandle, rfl⟩, h.patience, h.supply_succ⟩

theorem dialled (h : s.Alike pairs twin) : Option.Rel (Call.Alike pairs) s.dialled twin.dialled :=
  h.roster.get? .localOrigin

theorem dial (h : s.Alike pairs twin) (number : String) (now : Instant) :
    (∃ fault, s.dial number now = .error fault ∧ twin.dial number now = .error fault) ∨
      ∃ call s' twinCall twin', s.dial number now = .ok (call, s') ∧
        twin.dial number now = .ok (twinCall, twin') ∧ call.Alike pairs twinCall ∧
          s'.Alike pairs twin' := by
  unfold Survey.dial
  rw [isSome_eq_of_alike h.dialled]
  split
  · exact .inl ⟨_, rfl, rfl⟩
  · have hcall : (Call.outgoing s.nextHandle number now).Alike pairs
        (.outgoing twin.nextHandle number now) := ⟨_, h.nextHandle, rfl⟩
    exact .inr ⟨_, _, _, _, rfl, rfl, hcall, h.roster.insert hcall, h.burst, h.patience,
      h.supply_succ⟩

theorem abandon (h : s.Alike pairs twin) :
    List.Forall₂ (Call.Alike pairs) s.abandon.1.toList twin.abandon.1.toList ∧
      s.abandon.2.Alike pairs twin.abandon.2 := by
  refine ⟨?_, h.roster.erase _, h.burst, h.patience, h.supply⟩
  rcases none_or_some h.dialled with ⟨hnone, hnone'⟩ | ⟨call, twinCall, hsome, hsome', halike⟩
  · rw [Survey.abandon, Survey.abandon, hnone, hnone']
    exact .nil
  · rw [Survey.abandon, Survey.abandon, hsome, hsome']
    exact .cons halike.ended .nil

theorem endAll (h : s.Alike pairs twin) :
    List.Forall₂ (Call.Alike pairs) s.endAll.1 twin.endAll.1 ∧
      s.endAll.2.Alike pairs twin.endAll.2 :=
  ⟨ended_alike h.roster, .empty, .empty, h.patience, h.supply⟩

/-! #### The end of a pass -/

theorem added (h : s.Alike pairs twin) : s.added = twin.added := by
  simp only [Survey.added, h.burst.numbers, h.roster.contains]

theorem identify (h : s.Alike pairs twin) {report twinReport : Call}
    (hreport : report.Alike pairs twinReport) :
    (s.identify report).Alike pairs (twin.identify twinReport) := by
  unfold Survey.identify
  rw [hreport.index, h.added]
  rcases none_or_some (h.roster.get? report.index) with
    ⟨hnone, hnone'⟩ | ⟨known, twinKnown, hsome, hsome', halike⟩
  · rw [hnone, hnone']
    rcases none_or_some h.dialled with ⟨hnone, hnone'⟩ | ⟨call, twinCall, hsome, hsome', halike⟩
    · rw [hnone, hnone']
      exact hreport
    · rw [hsome, hsome']
      dsimp only
      split
      · exact (halike.absorb hreport).move report.index
      · exact hreport
  · rw [hsome, hsome']
    exact halike.absorb hreport

theorem markConference {r twin : Roster} (h : r.Alike pairs twin) :
    (markConference r).Alike pairs (markConference twin) := by
  refine h.revise fun call twin halike => ?_
  have hmarked := halike.mark (call.state == .active && 1 < r.countIn .active)
  simpa only [halike.state, h.countIn] using hmarked

theorem listed (h : s.Alike pairs twin) : s.listed.Alike pairs twin.listed := by
  have hreported := h.burst.revise fun _ _ halike => h.identify halike
  unfold Survey.listed
  rw [h.added]
  rcases none_or_some h.dialled with ⟨hnone, hnone'⟩ | ⟨call, twinCall, hsome, hsome', halike⟩
  · rw [hnone, hnone']
    exact hreported
  · rw [hsome, hsome']
    dsimp only
    split
    · exact hreported.insert halike
    · exact hreported

theorem reconciled (h : s.Alike pairs twin) : s.reconciled.Alike pairs twin.reconciled :=
  markConference h.listed

theorem announced (hpairs : Relator.BiUnique pairs) (h : s.Alike pairs twin) :
    List.Forall₂ (Call.Alike pairs) s.announced twin.announced := by
  refine List.rel_append ?_ ?_
  · exact ended_alike <|
      filter_alike (fun _ _ halike => by rw [halike.index, h.burst.contains]) h.roster
  · refine filter_alike (fun call twin halike => ?_) h.reconciled
    have hfound := h.roster.get? call.index
    rw [halike.index, Bool.eq_iff_iff, bne_iff_ne, bne_iff_ne]
    exact not_congr (halike.some_eq_iff hpairs hfound)

theorem stuckAge (h : s.Alike pairs twin) (now : Instant) :
    s.stuckAge now = twin.stuckAge now := by
  rw [Survey.stuckAge, Survey.stuckAge, h.added, h.patience]
  rcases none_or_some h.dialled with
    ⟨hnone, hnone'⟩ | ⟨call, twinCall, hsome, hsome', ⟨handle, -, rfl⟩⟩
  · rw [hnone, hnone']
  · rw [hsome, hsome']
    rfl

/-- **After a pass the calls are alike again**, and so are those that are announced. -/
theorem complete (hpairs : Relator.BiUnique pairs) (h : s.Alike pairs twin) (now : Instant) :
    List.Forall₂ (Call.Alike pairs) (s.complete now).1.changed (twin.complete now).1.changed ∧
      (s.complete now).1.stuck = (twin.complete now).1.stuck ∧
      (s.complete now).1.pollAgain = (twin.complete now).1.pollAgain ∧
      (s.complete now).2.Alike pairs (twin.complete now).2 := by
  have hsame := h.stuckAge now
  cases hstuck : twin.stuckAge now with
  | some age =>
      rw [complete_eq_of_stuck hstuck, complete_eq_of_stuck (hsame.trans hstuck)]
      exact ⟨h.endAll.1, rfl, rfl, h.endAll.2⟩
  | none =>
      rw [complete_eq hstuck, complete_eq (hsame.trans hstuck)]
      refine ⟨h.announced hpairs, rfl, ?_, h.reconciled, .empty, h.patience, h.supply⟩
      exact congrArg (!·) h.reconciled.isEmpty

end Survey.Alike

end AudioLink
