/-
**Rosters between two passes.**

Which calls belong to a conference depends on all the others: the active ones do, as soon as there
are several.  The gateway has a word on this in each of its reports, which is kept at first, and it
is only at the end of a pass that the calls are counted.  Between two passes calls are dialled and
given up without any counting.  It is not needed: a call dialled here stays as it was dialled until
the gateway lists it, and so it is never one of the active calls that are counted.

Main definitions:

* `AudioLink.Roster.Conferring` — the calls of a conference are the active ones, if there are
  several;
* `AudioLink.Roster.Coherent` — the calls of a roster are told apart, and those dialled here or
  belonging to a conference are known by their state.

Main results:

* `AudioLink.Survey.Arises.exists_outgoing` — a call dialled here is as it was dialled;
* `AudioLink.Survey.Arises.conferring` — a conference is made up of the active calls at any time;
* `AudioLink.Survey.Arises.coherent` — **the roster of a survey that can arise is coherent**.
-/

import AudioLink.Proofs.Call.Handles
import Mathlib.Data.List.Nodup
import Mathlib.Data.List.Perm.Subperm

set_option relaxedAutoImplicit false
set_option autoImplicit false

namespace AudioLink

namespace Roster

variable {r : Roster} {call : Call}

/-! ### Counting calls -/

/-- A call whose index is not taken is put among the others. -/
theorem place_perm {calls : List Call} (hnew : ∀ c ∈ calls, c.index ≠ call.index) :
    (place call calls).Perm (call :: calls) := by
  induction calls with
  | nil => exact .refl _
  | cons other rest ih =>
      rw [place]
      split
      · exact .refl _
      · rw [if_neg (Ne.symm (hnew other (List.mem_cons_self ..)))]
        have hrest := ih fun c hc => hnew c (List.mem_cons_of_mem _ hc)
        exact (hrest.cons other).trans (.swap call other rest)

/-- A new call is counted with those in its state. -/
theorem countIn_insert (hnew : r.get? call.index = none) (state : CallState) :
    (r.insert call).countIn state = r.countIn state + if call.state == state then 1 else 0 := by
  have hfree : ∀ c ∈ r.calls, c.index ≠ call.index := by
    intro c hc heq
    rw [← heq, get?_of_mem hc] at hnew
    cases hnew
  exact ((place_perm hfree).countP_eq _).trans List.countP_cons

/-- To take away a call changes nothing about the number of calls in other states. -/
theorem countIn_erase {index : CallIndex} {state : CallState}
    (hother : ∀ c, r.get? index = some c → c.state ≠ state) :
    (r.erase index).countIn state = r.countIn state := by
  rw [countIn, erase, List.countP_filter]
  refine List.countP_congr fun c hc => ?_
  rw [Bool.and_eq_true, bne_iff_ne, and_iff_left_iff_imp]
  rintro hstate rfl
  exact hother c (get?_of_mem hc) (eq_of_beq hstate)

/-- To mark conferences does not change the number of calls in a state. -/
theorem countIn_markConference (r : Roster) (state : CallState) :
    (Survey.markConference r).countIn state = r.countIn state := by
  rw [countIn, Survey.markConference, calls_revise, List.countP_map]
  rfl

/-! ### Conferences -/

/-- The calls that belong to a conference are the active ones, if there are several. -/
def Conferring (r : Roster) : Prop :=
  ∀ call ∈ r.calls, call.multiparty = true ↔ call.state = .active ∧ 1 < r.countIn .active

theorem conferring_empty : Conferring empty :=
  fun call hcall => absurd hcall (not_mem_empty call)

/-- A new call that is not active belongs to no conference and changes none. -/
theorem Conferring.insert (h : r.Conferring) (hnew : r.get? call.index = none)
    (hstate : call.state ≠ .active) (hsingle : call.multiparty = false) :
    (r.insert call).Conferring := by
  have hcount : (r.insert call).countIn .active = r.countIn .active := by
    rw [countIn_insert hnew, beq_eq_false_iff_ne.2 hstate]
    rfl
  intro c hc
  rw [hcount]
  rcases mem_insert hc with rfl | hc
  · rw [hsingle]
    exact iff_of_false Bool.false_ne_true fun hactive => hstate hactive.1
  · exact h c hc

/-- A call that is not active can be taken away without changing any conference. -/
theorem Conferring.erase (h : r.Conferring) {index : CallIndex}
    (hstate : ∀ c, r.get? index = some c → c.state ≠ .active) : (r.erase index).Conferring := by
  intro c hc
  rw [countIn_erase hstate]
  exact h c (mem_erase hc)

/-- Once they are marked, the calls of a conference are what they should be. -/
theorem conferring_markConference (r : Roster) : (Survey.markConference r).Conferring := by
  intro c hc
  obtain ⟨marked, -, rfl⟩ := List.mem_map.1 hc
  rw [countIn_markConference, Bool.and_eq_true, beq_iff_eq, decide_eq_true_eq]

/-! ### Coherent rosters -/

/-- The calls of a roster are told apart by index and by handle; a call dialled here is outgoing,
being dialled, and in no conference; and the calls of a conference are the active ones, if there
are several. -/
structure Coherent (r : Roster) : Prop where
  /-- Every call is found under its own index and under no other. -/
  indexed : ∀ call index, r.get? index = some call ↔ call ∈ r.calls ∧ call.index = index
  handles : (r.calls.map Call.handle).Nodup
  dialled : ∀ call ∈ r.calls, call.index = .localOrigin →
    call.state = .dialing ∧ call.direction = .outgoing ∧ call.multiparty = false
  conference : r.Conferring

/-- If several calls are in a state, each of them is there with another one. -/
theorem exists_other (hcall : call ∈ r.calls) {state : CallState}
    (hseveral : 1 < r.countIn state) :
    ∃ other ∈ r.calls, other.index ≠ call.index ∧ other.state = state := by
  refine Classical.byContradiction fun hnone => ?_
  have hsub : r.calls.filter (·.state == state) ⊆ [call] := by
    intro other hother
    obtain ⟨hmem, hstate⟩ := List.mem_filter.1 hother
    refine List.mem_singleton.2 (Classical.byContradiction fun hne => ?_)
    refine hnone ⟨other, hmem, fun hindex => hne ?_, eq_of_beq hstate⟩
    exact Option.some.inj ((get?_of_mem hmem).symm.trans (hindex ▸ get?_of_mem hcall))
  have hlength := (List.Nodup.subperm ((nodup_calls r).filter _) hsub).length_le
  rw [countIn, List.countP_eq_length_filter] at hseveral
  exact absurd hlength (Nat.not_le.2 hseveral)

end Roster

namespace Survey

variable {issuer : Nat} {patience : Duration} {s : Survey} {heard : List Call}

/-- A call dialled here is as it was dialled, until it is listed or given up. -/
theorem Arises.exists_outgoing (h : Arises issuer patience s heard) {call : Call}
    (hdialled : s.dialled = some call) :
    ∃ handle number now, call = .outgoing handle number now := by
  induction h generalizing call with
  | start => cases hdialled
  | begin _ ih => exact ih hdialled
  | record _ _ _ ih => exact ih hdialled
  | @dial s next heard number now entered _ hdial _ =>
      obtain ⟨-, rfl, rfl⟩ := dial_eq_ok hdial
      have hget : (s.roster.insert (.outgoing s.nextHandle number now)).get? .localOrigin =
          some call := hdialled
      rw [Roster.get?_insert] at hget
      cases hget
      exact ⟨_, _, _, rfl⟩
  | @abandon s heard _ _ =>
      have hget : (s.roster.erase .localOrigin).get? .localOrigin = some call := hdialled
      rw [Roster.get?_erase, if_pos rfl] at hget
      cases hget
  | endAll _ _ => cases hdialled
  | @complete s heard now harises ih =>
      cases hstuck : s.stuckAge now with
      | some age =>
          rw [complete_eq_of_stuck hstuck] at hdialled
          cases hdialled
      | none =>
          rw [complete_eq hstuck] at hdialled
          have hget : s.reconciled.get? .localOrigin = some call := hdialled
          rw [get?_reconciled_local harises.tidy] at hget
          split at hget
          · exact ih hget
          · cases hget

/-- **A conference is made up of the active calls at any time**, not only after a pass. -/
theorem Arises.conferring (h : Arises issuer patience s heard) : s.roster.Conferring := by
  -- only a pass lists active calls, and it marks the conferences anew; what happens in between is
  -- about the call dialled here
  induction h with
  | start => exact Roster.conferring_empty
  | begin _ ih => exact ih
  | record _ _ _ ih => exact ih
  | dial _ hdial ih =>
      obtain ⟨hnone, rfl, rfl⟩ := dial_eq_ok hdial
      exact ih.insert hnone CallState.noConfusion rfl
  | abandon harises ih =>
      refine ih.erase fun call hcall hactive => ?_
      obtain ⟨hdialing, -⟩ := harises.tidy.dialled call hcall
      rw [hdialing] at hactive
      cases hactive
  | endAll _ _ => exact Roster.conferring_empty
  | @complete s heard now _ _ =>
      cases hstuck : s.stuckAge now with
      | some age =>
          rw [complete_eq_of_stuck hstuck]
          exact Roster.conferring_empty
      | none =>
          rw [complete_eq hstuck]
          exact Roster.conferring_markConference _

/-- **The roster of a survey that can arise is coherent.** -/
theorem Arises.coherent (h : Arises issuer patience s heard) : s.roster.Coherent where
  indexed _ _ := Roster.get?_eq_some_iff
  handles := List.Nodup.map_on h.separate.roster s.roster.nodup_calls
  dialled call hcall hindex := by
    have hfound : s.roster.get? call.index = some call := Roster.get?_of_mem hcall
    rw [hindex] at hfound
    obtain ⟨handle, number, now, rfl⟩ := h.exists_outgoing hfound
    exact ⟨rfl, rfl, rfl⟩
  conference := h.conferring

end Survey

end AudioLink
