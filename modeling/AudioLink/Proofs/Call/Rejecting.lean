/-
**Which call is rejected.**

A user who accepts or rejects a call means the one that rings: the first that comes in or waits,
and only when none does, the first on hold.  Accepting looks for a ringing call before it looks for
one on hold.  Rejecting looks for both at once and takes the one of lowest index, so that a call on
hold comes in between when it has the lower index.  It is then the call on hold that is rejected,
and nobody could tell only if it is rejected in the same way as the ringing one.

Main definitions:

* `AudioLink.Roster.IsFirst` — the call of lowest index among those in some states;
* `AudioLink.Roster.IsMeant` — the call that a user means;
* `AudioLink.Roster.RejectsMeant` — rejecting is done in the way that suits this call;
* `AudioLink.Roster.Obstructs` — a call on hold comes in between, and is rejected in another way.

Main results:

* `AudioLink.Roster.acceptable_eq_some_iff` — accepting is about the call that is meant;
* `AudioLink.Roster.rejectsMeant_iff_eq` — what it is to reject the call that is meant;
* `AudioLink.Roster.reject_suits_iff` — **the call that is meant is rejected unless one on hold
  comes in between**, and then it is that one.
-/

import AudioLink.Call.Control

set_option relaxedAutoImplicit false
set_option autoImplicit false

namespace AudioLink

/-- The action that rejects a call in the given state, if it can be rejected at all. -/
def CallState.rejection? : CallState → Option CallControl
  | .incoming => some .hangUp
  | .waiting | .held => some .releaseHeld
  | .responseHeld => some .responseAndHoldReject
  | .active | .dialing | .alerting | .terminated => none

/-- The states of a call that rings. -/
def CallState.ringing : List CallState := [.incoming, .waiting]

/-- The states of a call on hold. -/
def CallState.onHold : List CallState := [.responseHeld, .held]

namespace Roster

open CallState

variable {r : Roster} {states others : List CallState} {call held : Call}

/-! ### The first call in some states -/

/-- A call is the one of lowest index among those in some states. -/
structure IsFirst (r : Roster) (states : List CallState) (call : Call) : Prop where
  mem : call ∈ r.calls
  state : call.state ∈ states
  least : ∀ other ∈ r.calls, other.state ∈ states → call.index.rank ≤ other.index.rank

/-- In a list ordered by index, the first call with a property is the one of lowest index. -/
theorem find?_eq_some_iff_least {calls : List Call} {p : Call → Bool}
    (sorted : calls.Pairwise fun a b => a.index.rank < b.index.rank) :
    calls.find? p = some call ↔ call ∈ calls ∧ p call = true ∧
      ∀ other ∈ calls, p other = true → call.index.rank ≤ other.index.rank := by
  induction calls with
  | nil => simp
  | cons head rest ih =>
      obtain ⟨hlower, hrest⟩ := List.pairwise_cons.1 sorted
      by_cases hhead : p head = true
      · rw [List.find?_cons_of_pos hhead]
        constructor
        · intro h
          obtain rfl : head = call := Option.some.inj h
          refine ⟨List.mem_cons_self .., hhead, ?_⟩
          intro other hother _
          rcases List.mem_cons.1 hother with rfl | hother
          · exact Nat.le_refl _
          · exact Nat.le_of_lt (hlower other hother)
        · rintro ⟨hmem, -, hleast⟩
          -- every other call has a higher index than the head
          rcases List.mem_cons.1 hmem with rfl | hmem
          · rfl
          · have hhigher := hlower call hmem
            have := hleast head (List.mem_cons_self ..) hhead
            omega
      · rw [List.find?_cons_of_neg hhead, ih hrest]
        constructor
        · rintro ⟨hmem, hcall, hleast⟩
          refine ⟨List.mem_cons_of_mem _ hmem, hcall, ?_⟩
          intro other hother hp
          rcases List.mem_cons.1 hother with rfl | hother
          · exact absurd hp hhead
          · exact hleast other hother hp
        · rintro ⟨hmem, hcall, hleast⟩
          refine ⟨?_, hcall, fun other hother => hleast other (List.mem_cons_of_mem _ hother)⟩
          rcases List.mem_cons.1 hmem with rfl | hmem
          · exact absurd hcall hhead
          · exact hmem

/-- What is found is the first call in one of the states. -/
theorem findIn_eq_some_iff : r.findIn states = some call ↔ r.IsFirst states call := by
  rw [findIn, find?_eq_some_iff_least r.sorted]
  simp only [List.contains_iff_mem]
  exact ⟨fun ⟨hmem, hstate, hleast⟩ => ⟨hmem, hstate, hleast⟩,
    fun ⟨hmem, hstate, hleast⟩ => ⟨hmem, hstate, hleast⟩⟩

/-- Nothing is found when no call is in any of the states. -/
theorem findIn_eq_none_iff : r.findIn states = none ↔ ∀ call ∈ r.calls, call.state ∉ states := by
  simp [findIn]

/-- There is but one first call. -/
theorem IsFirst.unique (h : r.IsFirst states call) {other : Call}
    (hother : r.IsFirst states other) : call = other :=
  Option.some.inj ((findIn_eq_some_iff.2 h).symm.trans (findIn_eq_some_iff.2 hother))

/-- The first of a kind is the first of two kinds when no call of the other kind precedes it. -/
theorem IsFirst.append_right (h : r.IsFirst states call)
    (hothers : ∀ other ∈ r.calls, other.state ∈ others → call.index.rank ≤ other.index.rank) :
    r.IsFirst (states ++ others) call where
  mem := h.mem
  state := List.mem_append_left _ h.state
  least other hother hstate := by
    rcases List.mem_append.1 hstate with hstate | hstate
    · exact h.least other hother hstate
    · exact hothers other hother hstate

theorem IsFirst.append_left (h : r.IsFirst others call)
    (hstates : ∀ other ∈ r.calls, other.state ∈ states → call.index.rank ≤ other.index.rank) :
    r.IsFirst (states ++ others) call where
  mem := h.mem
  state := List.mem_append_right _ h.state
  least other hother hstate := by
    rcases List.mem_append.1 hstate with hstate | hstate
    · exact hstates other hother hstate
    · exact h.least other hother hstate

/-! ### The call that is meant -/

/-- The call that a user means: the first one that rings, and only when none rings, the first one
on hold. -/
inductive IsMeant (r : Roster) (call : Call) : Prop
  | rings (h : r.IsFirst ringing call)
  | isHeld (hquiet : ∀ other ∈ r.calls, other.state ∉ ringing) (h : r.IsFirst onHold call)

/-- Accepting is about the call that is meant. -/
theorem acceptable_eq_some_iff : r.acceptable = some call ↔ r.IsMeant call := by
  show (r.findIn ringing).or (r.findIn onHold) = some call ↔ _
  cases hringing : r.findIn ringing with
  | some first =>
      have hfirst : r.IsFirst ringing first := findIn_eq_some_iff.1 hringing
      constructor
      · rintro ⟨⟩
        exact .rings hfirst
      · rintro (h | ⟨hquiet, -⟩)
        · rw [hfirst.unique h]
          rfl
        · exact absurd hfirst.state (hquiet first hfirst.mem)
  | none =>
      have hquiet := findIn_eq_none_iff.1 hringing
      rw [Option.none_or, findIn_eq_some_iff]
      constructor
      · exact .isHeld hquiet
      · rintro (h | ⟨-, h⟩)
        · exact absurd h.state (hquiet call h.mem)
        · exact h

/-- Nothing can be accepted when no call is meant. -/
theorem acceptable_eq_none_iff : r.acceptable = none ↔ ∀ call, ¬r.IsMeant call := by
  simp only [← acceptable_eq_some_iff, Option.eq_none_iff_forall_not_mem, Option.mem_def]

theorem IsMeant.state_mem (h : r.IsMeant call) : call.state ∈ ringing ++ onHold := by
  rcases h with h | ⟨-, h⟩
  · exact List.mem_append_left _ h.state
  · exact List.mem_append_right _ h.state

/-! ### Rejecting it -/

/-- A call can be rejected when it rings or is on hold. -/
theorem rejection?_eq_none_iff {state : CallState} :
    state.rejection? = none ↔ state ∉ ringing ++ onHold := by
  cases state <;> simp [rejection?, ringing, onHold]

/-- A call that is held is released, and one put on hold instead of being answered is rejected as
such. -/
theorem rejection?_of_mem_onHold {state : CallState} (h : state ∈ onHold) : state.rejection? =
    if state = .held then some .releaseHeld else some .responseAndHoldReject := by
  simp only [onHold, List.mem_cons, List.not_mem_nil, or_false] at h
  rcases h with rfl | rfl
  · rfl
  · rfl

/-- A ringing call and one on hold are rejected in the same way only if one waits and the other is
held. -/
theorem rejection?_eq_iff {ring hold : CallState} (hring : ring ∈ ringing) (hhold : hold ∈ onHold) :
    hold.rejection? = ring.rejection? ↔ hold = .held ∧ ring = .waiting := by
  simp only [ringing, onHold, List.mem_cons, List.not_mem_nil, or_false] at hring hhold
  rcases hring with rfl | rfl <;> rcases hhold with rfl | rfl <;> simp [rejection?]

/-- Rejecting is about the first call that rings or is on hold. -/
theorem reject_eq : r.reject = (r.findIn (ringing ++ onHold)).bind (·.state.rejection?) := rfl

/-- The first call that rings or is on hold is rejected in its own way. -/
theorem IsFirst.reject (h : r.IsFirst (ringing ++ onHold) call) :
    r.reject = call.state.rejection? := by
  rw [reject_eq, findIn_eq_some_iff.2 h]
  rfl

/-- There is nothing to reject exactly when there is nothing to accept. -/
theorem reject_eq_none_iff : r.reject = none ↔ r.acceptable = none := by
  have hfound : r.reject = none ↔ r.findIn (ringing ++ onHold) = none := by
    cases hfirst : r.findIn (ringing ++ onHold) with
    | none => simp [reject_eq, hfirst]
    | some call =>
        have hcall : r.IsFirst (ringing ++ onHold) call := findIn_eq_some_iff.1 hfirst
        have hrejected : ¬call.state.rejection? = none := fun hnone =>
          rejection?_eq_none_iff.1 hnone hcall.state
        simp [hcall.reject, hrejected]
  have hneither : r.acceptable = none ↔ r.findIn ringing = none ∧ r.findIn onHold = none :=
    Option.or_eq_none_iff
  rw [hfound, hneither]
  simp only [findIn_eq_none_iff, List.mem_append, not_or]
  exact ⟨fun h => ⟨fun c hc => (h c hc).1, fun c hc => (h c hc).2⟩,
    fun h c hc => ⟨h.1 c hc, h.2 c hc⟩⟩

/-- Rejecting is done in the way that suits the call that is meant: nothing is done when there is
none, and otherwise what its state asks for. -/
structure RejectsMeant (r : Roster) : Prop where
  nothing : r.reject = none ↔ ∀ call, ¬r.IsMeant call
  hangUp : r.reject = some .hangUp ↔ ∃ call, r.IsMeant call ∧ call.state = .incoming
  releaseHeld : r.reject = some .releaseHeld ↔
    ∃ call, r.IsMeant call ∧ (call.state = .waiting ∨ call.state = .held)
  responseAndHoldReject : r.reject = some .responseAndHoldReject ↔
    ∃ call, r.IsMeant call ∧ call.state = .responseHeld

/-- To reject in the way that suits the call that is meant is to do what its state asks for. -/
theorem rejectsMeant_iff_eq :
    r.RejectsMeant ↔ r.reject = r.acceptable.bind (·.state.rejection?) := by
  constructor
  · intro h
    cases hcall : r.acceptable with
    | none => exact reject_eq_none_iff.2 hcall
    | some call =>
        have hmeant : r.IsMeant call := acceptable_eq_some_iff.1 hcall
        have hstate := hmeant.state_mem
        show r.reject = call.state.rejection?
        cases hcase : call.state with
        | incoming => exact h.hangUp.2 ⟨call, hmeant, hcase⟩
        | waiting => exact h.releaseHeld.2 ⟨call, hmeant, .inl hcase⟩
        | held => exact h.releaseHeld.2 ⟨call, hmeant, .inr hcase⟩
        | responseHeld => exact h.responseAndHoldReject.2 ⟨call, hmeant, hcase⟩
        | active | dialing | alerting | terminated => simp [hcase, ringing, onHold] at hstate
  · intro h
    have hasks {action : CallControl} : r.reject = some action ↔
        ∃ call, r.IsMeant call ∧ call.state.rejection? = some action := by
      simp only [h, Option.bind_eq_some_iff, acceptable_eq_some_iff]
    refine ⟨reject_eq_none_iff.trans acceptable_eq_none_iff, hasks.trans ?_, hasks.trans ?_,
      hasks.trans ?_⟩
    -- each action is asked for by the states named, and by no other
    all_goals
      refine exists_congr fun call => and_congr_right fun _ => ?_
      cases call.state <;> simp [rejection?]

/-! ### A call on hold that comes in between -/

/-- A call on hold comes in between: it precedes the ringing one that is meant, and the two are not
rejected in the same way, as a call that waits and one that is held are. -/
structure Obstructs (r : Roster) (held call : Call) : Prop where
  holds : r.IsFirst onHold held
  rings : r.IsFirst ringing call
  precedes : held.index.rank < call.index.rank
  differs : ¬(held.state = .held ∧ call.state = .waiting)

/-- A call on hold that precedes the ringing ones is the first of all. -/
theorem IsFirst.overtake (hheld : r.IsFirst onHold held) (hring : r.IsFirst ringing call)
    (hprecedes : held.index.rank < call.index.rank) : r.IsFirst (ringing ++ onHold) held :=
  hheld.append_left fun other hother hstate =>
    Nat.le_trans (Nat.le_of_lt hprecedes) (hring.least other hother hstate)

/-- A call on hold that comes in between is rejected itself. -/
theorem Obstructs.reject (h : r.Obstructs held call) : r.reject = held.state.rejection? :=
  (h.holds.overtake h.rings h.precedes).reject

/-- Without a call on hold that comes in between, the call that is meant is rejected in its own
way. -/
theorem IsMeant.reject (hmeant : r.IsMeant call) (hfree : ∀ held, ¬r.Obstructs held call) :
    r.reject = call.state.rejection? := by
  rcases hmeant with hring | ⟨hquiet, hheld⟩
  · cases hfound : r.findIn onHold with
    | none =>
        have hnone := findIn_eq_none_iff.1 hfound
        refine (hring.append_right fun other hother hstate => ?_).reject
        exact absurd hstate (hnone other hother)
    | some held =>
        have hheld : r.IsFirst onHold held := findIn_eq_some_iff.1 hfound
        by_cases hprecedes : held.index.rank < call.index.rank
        · -- the call on hold is rejected, but in the way that suits the other one as well
          have hsame : held.state = .held ∧ call.state = .waiting :=
            Classical.byContradiction fun hdiffers =>
              hfree held ⟨hheld, hring, hprecedes, hdiffers⟩
          rw [(hheld.overtake hring hprecedes).reject]
          exact (rejection?_eq_iff hring.state hheld.state).2 hsame
        · refine (hring.append_right fun other hother hstate => ?_).reject
          have := hheld.least other hother hstate
          omega
  · refine (hheld.append_left fun other hother hstate => ?_).reject
    exact absurd hstate (hquiet other hother)

/-- **Which call is rejected.**  The call that is meant is rejected as its state asks, unless a call
on hold that is rejected in another way has a lower index than the ringing one.  Then the call on
hold is rejected. -/
theorem reject_suits_iff (r : Roster) :
    (r.RejectsMeant ↔ ¬∃ held call, r.Obstructs held call) ∧
      ∀ held call, r.Obstructs held call → r.reject =
        if held.state = .held then some .releaseHeld else some .responseAndHoldReject := by
  constructor
  · rw [rejectsMeant_iff_eq]
    constructor
    · rintro h ⟨held, call, hbetween⟩
      rw [acceptable_eq_some_iff.2 (.rings hbetween.rings), hbetween.reject] at h
      exact hbetween.differs ((rejection?_eq_iff hbetween.rings.state hbetween.holds.state).1 h)
    · intro hfree
      cases hcall : r.acceptable with
      | none => exact reject_eq_none_iff.2 hcall
      | some call =>
          have hmeant : r.IsMeant call := acceptable_eq_some_iff.1 hcall
          exact hmeant.reject fun held hbetween => hfree ⟨held, call, hbetween⟩
  · intro held call hbetween
    rw [hbetween.reject]
    exact rejection?_of_mem_onHold hbetween.holds.state

/-- Incoming calls in the given states, listed under the numbers from one. -/
def lined (states : List CallState) : Roster :=
  ofList (states.zipIdx.map fun (state, n) =>
    .reported ⟨0, n⟩ ⟨n + 1, .incoming, state, false, ""⟩ 0)

/-- A call that was put on hold instead of being answered comes between a call that waits and the
user who rejects it; one that is held does not, since both are released together. -/
theorem reject_suits_iff_holding :
    (∃ held call, (lined [.responseHeld, .active, .waiting]).Obstructs held call ∧
      (lined [.responseHeld, .active, .waiting]).reject =
        if held.state = .held then some .releaseHeld else some .responseAndHoldReject) ∧
    ((lined [.held, .active, .waiting]).RejectsMeant ↔
      ¬∃ held call, (lined [.held, .active, .waiting]).Obstructs held call) := by
  constructor
  · have hbetween : (lined [.responseHeld, .active, .waiting]).Obstructs
        (.reported ⟨0, 0⟩ ⟨1, .incoming, .responseHeld, false, ""⟩ 0)
        (.reported ⟨0, 2⟩ ⟨3, .incoming, .waiting, false, ""⟩ 0) :=
      { holds := findIn_eq_some_iff.1 rfl
        rings := findIn_eq_some_iff.1 rfl
        precedes := by decide
        differs := by decide }
    exact ⟨_, _, hbetween, (reject_suits_iff _).2 _ _ hbetween⟩
  · exact (reject_suits_iff _).1

/-- Rejecting does not always suit the call that is meant: a call comes in while another is held
under a lower number, and the held one is released. -/
theorem reject_strays : ¬∀ r : Roster, r.RejectsMeant := by
  intro hall
  have hmeant := rejectsMeant_iff_eq.1 (hall (lined [.held, .incoming]))
  have hreleased : (lined [.held, .incoming]).reject = some .releaseHeld := rfl
  rw [hreleased] at hmeant
  cases hmeant

end Roster

end AudioLink
