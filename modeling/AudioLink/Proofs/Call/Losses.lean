/-
**What a pass takes away.**

A call that the gateway no longer lists is taken to be over.  That is right when the list is whole;
but a pass cannot tell a list without calls from one that has broken off.  So what a pass takes away
depends on the entries that were recorded before it, and on nothing else but the patience with a
call dialled here.

Main definitions:

* `AudioLink.Roster.Lossless` — no call is lost on the way from one roster to another, and none that
  has a number is announced as ended;
* `AudioLink.Survey.Covers` — the recorded entries list every numbered call, and tell of no end.

Main results:

* `AudioLink.Survey.covers_of_lossless`, `AudioLink.Survey.Covers.lossless` — an ordinary pass loses
  nothing exactly when the entries cover the calls;
* `AudioLink.Survey.lossless_complete_iff` — **a pass loses nothing exactly when it does not give up
  and the entries cover the calls**.
-/

import AudioLink.Proofs.Call.Board
import AudioLink.Proofs.Call.Conference

set_option relaxedAutoImplicit false
set_option autoImplicit false

namespace AudioLink

/-- From one roster to another no call is lost, under whatever index it goes on, and no call that
has a number is announced as ended. -/
structure Roster.Lossless (before after : Roster) (announced : List Call) : Prop where
  kept : ∀ call ∈ before.calls, ∃ heir ∈ after.calls, heir.handle = call.handle
  unended : ∀ call ∈ announced, call.state = .terminated → call.index = .localOrigin

namespace Survey

variable {issuer : Nat} {patience : Duration} {s : Survey} {heard : List Call}

/-- The recorded entries cover the calls: they list every numbered call, and they tell of the end
of none that is not known to have ended. -/
structure Covers (s : Survey) : Prop where
  listed : ∀ n ∈ s.roster.numbers, s.burst.contains (.peer n) = true
  going : ∀ report ∈ s.burst.calls, report.state = .terminated →
    ∃ known ∈ s.roster.calls, known.index = report.index ∧ known.state = .terminated ∧
      known.number = report.number

/-- Entries are recorded under numbers only. -/
theorem exists_number (s : Survey) {report : Call}
    (hreport : report ∈ s.burst.calls) : ∃ n, report.index = .peer n := by
  have hfound : s.burst.get? report.index = some report := Roster.get?_of_mem hreport
  cases hindex : report.index with
  | localOrigin =>
      rw [hindex, s.numbered] at hfound
      cases hfound
  | peer n => exact ⟨n, rfl⟩

/-- A call that has ended, and is listed as ended once more, stays as it is. -/
theorem get?_reconciled_of_ended (h : Arises issuer patience s heard) {n : Nat}
    {report known : Call} (hreport : s.burst.get? (.peer n) = some report)
    (hknown : s.roster.get? (.peer n) = some known) (hlisted : report.state = .terminated)
    (hended : known.state = .terminated) (hnumber : known.number = report.number) :
    s.reconciled.get? (.peer n) = some known := by
  have hindex : report.index = .peer n := Roster.index_of_get? hreport
  -- neither of them is active, so that neither belongs to a conference
  have hsingle : known.multiparty = false := by
    rw [Bool.eq_false_iff]
    intro hmultiparty
    obtain ⟨hactive, -⟩ := (h.conferring known (Roster.mem_of_get? hknown)).1 hmultiparty
    rw [hended] at hactive
    cases hactive
  have hidentified : s.identify report = known.absorb report := by
    rw [identify, hindex, hknown]
  rw [get?_reconciled, hreport, Option.map_some, hidentified, hlisted]
  cases known
  cases hsingle
  cases hended
  cases hnumber
  rw [Call.absorb, hlisted]
  rfl

/-- An entry is listed after an ordinary pass, with the state and the number it was recorded with. -/
theorem exists_reconciled_of_listed {n : Nat} {report : Call}
    (hreport : s.burst.get? (.peer n) = some report) :
    ∃ call, s.reconciled.get? (.peer n) = some call ∧ call.state = report.state ∧
      call.number = report.number := by
  have hnext := get?_reconciled s n
  rw [hreport] at hnext
  exact ⟨_, hnext, state_identify s report, number_identify s report⟩

/-- When an ordinary pass loses nothing, the entries cover the calls. -/
theorem covers_of_lossless (h : Arises issuer patience s heard)
    (hlossless : s.roster.Lossless s.reconciled s.announced) : s.Covers := by
  refine ⟨fun n hn => ?_, fun report hreport hstate => ?_⟩
  · obtain ⟨call, hcall⟩ := Option.isSome_iff_exists.1 (Roster.mem_numbers.1 hn)
    have hmem : call ∈ s.roster.calls := Roster.mem_of_get? hcall
    obtain ⟨heir, hheir, hhandle⟩ := hlossless.kept call hmem
    cases hlisted : s.burst.contains (.peer n) with
    | true => rfl
    | false =>
        exact absurd hhandle.symm (handle_ne_of_gone h.separate h.tidy hmem
          (Roster.index_of_get? hcall) hlisted hheir)
  · obtain ⟨n, hindex⟩ := s.exists_number hreport
    obtain ⟨call, hcall, hended, hnumber⟩ :=
      exists_reconciled_of_listed (hindex ▸ Roster.get?_of_mem hreport)
    have hpeer : call.index = .peer n := Roster.index_of_get? hcall
    -- what the entry has become is announced as ended, unless it stood there before
    by_cases hknown : s.roster.get? call.index = some call
    · exact ⟨call, Roster.mem_of_get? hknown, hpeer.trans hindex.symm, hended.trans hstate, hnumber⟩
    · have hannounced : call ∈ s.announced :=
        List.mem_append_right _ (List.mem_filter.2 ⟨Roster.mem_of_get? hcall, bne_iff_ne.2 hknown⟩)
      have hlocal := hlossless.unended call hannounced (hended.trans hstate)
      rw [hpeer] at hlocal
      cases hlocal

/-- When the entries cover the calls, an ordinary pass loses nothing. -/
theorem Covers.lossless (hcovers : s.Covers) (h : Arises issuer patience s heard) :
    s.roster.Lossless s.reconciled s.announced := by
  have hreported (call : Call) (hcall : call ∈ s.roster.calls) (n : Nat)
      (hindex : call.index = .peer n) : s.burst.contains (.peer n) = true := by
    refine hcovers.listed n (Roster.mem_numbers.2 ?_)
    rw [← hindex, Roster.get?_of_mem hcall]
    rfl
  refine ⟨fun call hcall => exists_heir h.tidy hcall (hreported call hcall), ?_⟩
  intro call hcall hended
  rcases List.mem_append.1 hcall with hcall | hcall
  · obtain ⟨gone, hgone, rfl⟩ := List.mem_map.1 hcall
    obtain ⟨hgone, n, hindex, hunlisted⟩ := mem_gone.1 hgone
    rw [hreported gone hgone n hindex] at hunlisted
    cases hunlisted
  · obtain ⟨hlisted, hnews⟩ := List.mem_filter.1 hcall
    have hfound : s.reconciled.get? call.index = some call := Roster.get?_of_mem hlisted
    cases hindex : call.index with
    | localOrigin => rfl
    | peer n =>
        rw [hindex] at hfound
        obtain ⟨report, hreport, hnumber, -, hstate, -⟩ := exists_of_get?_reconciled h.tidy hfound
        rw [← h.tidy.burst_peer] at hreport
        -- the entry tells of an end that was known before, so that it is no news
        have hlast : report.state = .terminated := hstate.symm.trans hended
        obtain ⟨known, hknown, hsame, hgone, hspelt⟩ :=
          hcovers.going report (Roster.mem_of_get? hreport) hlast
        have hbefore : s.roster.get? (.peer n) = some known := by
          rw [← hnumber, ← hsame]
          exact Roster.get?_of_mem hknown
        have hstays := get?_reconciled_of_ended h hreport hbefore hlast hgone hspelt
        obtain rfl : known = call := Option.some.inj (hstays.symm.trans hfound)
        rw [hindex, hbefore] at hnews
        exact absurd rfl (bne_iff_ne.1 hnews)

/-- **A pass loses nothing exactly when it does not give up and the entries cover the calls.** -/
theorem lossless_complete_iff (h : Arises issuer patience s heard) (now : Instant) :
    s.roster.Lossless (s.complete now).2.roster (s.complete now).1.changed ↔
      s.stuckAge now = none ∧ s.Covers := by
  cases hstuck : s.stuckAge now with
  | some age =>
      refine iff_of_false (fun hlossless => ?_) fun hgoing => nomatch hgoing.1
      -- at least the call dialled here is given up
      obtain ⟨call, hdialled, -⟩ := (stuckAge_eq_some_iff h.tidy).1 hstuck
      rw [complete_eq_of_stuck hstuck] at hlossless
      obtain ⟨heir, hheir, -⟩ := hlossless.kept call (Roster.mem_of_get? hdialled)
      exact Roster.not_mem_empty heir hheir
  | none =>
      rw [complete_eq hstuck]
      simp only [true_and]
      exact ⟨covers_of_lossless h, fun hcovers => hcovers.lossless h⟩

end Survey

end AudioLink
