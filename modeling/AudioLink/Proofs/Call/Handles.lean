/-
**The identities of calls.**

Every call has a handle, which it keeps however often it is reported, and also when the gateway
lists it under a number for the first time.  In every survey that can arise no two calls share one:
handles are given out in order, and a pass hands each of them on to at most one call.

Main definitions:

* `AudioLink.Survey.heir` — the index under which a call of the roster goes on after a pass;
* `AudioLink.Survey.Origin` — where the handle of a call comes from that stands in the roster after
  a pass;
* `AudioLink.Survey.Separate` — no two calls share a handle.

Main results:

* `AudioLink.Survey.exists_origin` — every call in the roster after a pass has an origin;
* `AudioLink.Survey.exists_heir` — every call in the roster before a pass has an heir, unless it is
  no longer reported;
* `AudioLink.Survey.Arises.separate` — **no two calls of a survey that can arise share a handle**.
-/

import AudioLink.Proofs.Call.Pass

set_option relaxedAutoImplicit false
set_option autoImplicit false

namespace AudioLink

namespace Roster

/-- Two calls of a roster under the same index are the same. -/
theorem eq_of_index_eq {r : Roster} {a b : Call} (ha : a ∈ r.calls) (hb : b ∈ r.calls)
    (h : a.index = b.index) : a = b := by
  have hfound := get?_of_mem ha
  rw [h, get?_of_mem hb] at hfound
  exact (Option.some.inj hfound).symm

theorem not_mem_empty (a : Call) : a ∉ empty.calls := List.not_mem_nil

theorem mem_insert {r : Roster} {call a : Call} (h : a ∈ (r.insert call).calls) :
    a = call ∨ a ∈ r.calls :=
  mem_place h

theorem mem_erase {r : Roster} {index : CallIndex} {a : Call}
    (h : a ∈ (r.erase index).calls) : a ∈ r.calls :=
  (List.mem_filter.1 h).1

end Roster

namespace Survey

variable {issuer : Nat} {patience : Duration} {s next : Survey} {heard : List Call}

/-! ### Origins and heirs -/

/-- The index under which a call of the roster goes on after a pass: its own, but the call dialled
here goes on under the first new number. -/
def heir (s : Survey) : CallIndex → CallIndex
  | .peer n => .peer n
  | .localOrigin => (s.added.head?.map CallIndex.peer).getD .localOrigin

/-- Where the handle of a call comes from that stands in the roster after a pass: from the call it
continues, or from what was recorded. -/
inductive Origin (s : Survey) (call origin : Call) : Prop
  | continued : origin ∈ s.roster.calls → call.index = s.heir origin.index → Origin s call origin
  | recorded : origin ∈ s.burst.calls → call.index = origin.index → Origin s call origin

theorem heir_of_added_isEmpty (h : s.added.isEmpty = true) (index : CallIndex) :
    s.heir index = index := by
  cases index with
  | peer n => rfl
  | localOrigin =>
      rw [heir, List.isEmpty_iff.1 h]
      rfl

/-- Every call in the roster after a pass has an origin. -/
theorem exists_origin (h : Tidy patience s heard) {call : Call}
    (hcall : call ∈ s.reconciled.calls) :
    ∃ origin, s.Origin call origin ∧ call.handle = origin.handle := by
  have hfound : s.reconciled.get? call.index = some call := Roster.get?_of_mem hcall
  cases hindex : call.index with
  | localOrigin =>
      rw [hindex, get?_reconciled_local h] at hfound
      split at hfound
      · next hempty =>
          refine ⟨call, .continued (Roster.mem_of_get? hfound) ?_, rfl⟩
          exact (heir_of_added_isEmpty hempty _).symm
      · cases hfound
  | peer n =>
      rw [hindex] at hfound
      obtain ⟨report, hreport, hnumber, -, -, hhandle, -⟩ := exists_of_get?_reconciled h hfound
      rw [← h.burst_peer] at hreport
      have hrecorded : report ∈ s.burst.calls := Roster.mem_of_get? hreport
      -- the report is taken for a known call, for the one dialled here, or for a new one
      cases hknown : s.roster.get? (.peer n) with
      | some known =>
          have hcontinues := identify_known (hnumber ▸ hknown)
          refine ⟨known, .continued (Roster.mem_of_get? hknown) ?_, hhandle.trans hcontinues.1⟩
          rw [Roster.index_of_get? hknown, hindex]
          rfl
      | none =>
          by_cases hfirst : s.added.head?.map CallIndex.peer = some report.index
          · cases hdialled : s.dialled with
            | some placeholder =>
                have hcontinues := identify_dialled (hnumber ▸ hknown) hdialled hfirst
                refine ⟨placeholder, .continued (Roster.mem_of_get? hdialled) ?_,
                  hhandle.trans hcontinues.1⟩
                rw [Roster.index_of_get? hdialled, hindex, heir, hfirst, hnumber]
                rfl
            | none =>
                have hcontinues := identify_fresh (hnumber ▸ hknown) (.inl hdialled)
                exact ⟨report, .recorded hrecorded (hindex.trans hnumber.symm),
                  hhandle.trans hcontinues.1⟩
          · have hcontinues := identify_fresh (hnumber ▸ hknown) (.inr hfirst)
            exact ⟨report, .recorded hrecorded (hindex.trans hnumber.symm),
              hhandle.trans hcontinues.1⟩

/-- A numbered call in the roster after a pass was recorded. -/
theorem contains_of_get?_reconciled {n : Nat} {call : Call}
    (hfound : s.reconciled.get? (.peer n) = some call) : s.burst.contains (.peer n) = true := by
  rw [get?_reconciled] at hfound
  obtain ⟨report, hreport, -⟩ := Option.map_eq_some_iff.1 hfound
  rw [Roster.contains_eq, hreport]
  rfl

/-- Every call in the roster before a pass has an heir, unless it is no longer reported. -/
theorem exists_heir (h : Tidy patience s heard) {call : Call} (hcall : call ∈ s.roster.calls)
    (hreported : ∀ n, call.index = .peer n → s.burst.contains (.peer n) = true) :
    ∃ heir ∈ s.reconciled.calls, heir.handle = call.handle := by
  have hfound : s.roster.get? call.index = some call := Roster.get?_of_mem hcall
  have hlisted (n : Nat) (report : Call) (hreport : s.burst.get? (.peer n) = some report) :
      ∃ heir ∈ s.reconciled.calls, heir.handle = (s.identify report).handle := by
    have hnext := get?_reconciled s n
    rw [hreport] at hnext
    exact ⟨_, Roster.mem_of_get? hnext, rfl⟩
  cases hindex : call.index with
  | peer n =>
      obtain ⟨report, hreport⟩ := Option.isSome_iff_exists.1 (hreported n hindex)
      have hnumber : report.index = .peer n := Roster.index_of_get? hreport
      obtain ⟨heir, hmem, hhandle⟩ := hlisted n report hreport
      rw [hindex] at hfound
      exact ⟨heir, hmem, hhandle.trans (identify_known (hnumber ▸ hfound)).1⟩
  | localOrigin =>
      rw [hindex] at hfound
      -- the call dialled here stays as long as nothing is new, and becomes the first new call then
      cases hhead : s.added.head? with
      | none =>
          have hempty : s.added.isEmpty = true := by
            rw [List.isEmpty_iff, ← List.head?_eq_none_iff]
            exact hhead
          have hkept := get?_reconciled_local h
          rw [if_pos hempty] at hkept
          exact ⟨call, Roster.mem_of_get? (hkept.trans hfound), rfl⟩
      | some n =>
          obtain ⟨⟨hsome, hnew⟩, -⟩ := (head?_added_eq_some_iff h).1 hhead
          obtain ⟨report, hreport⟩ := Option.isSome_iff_exists.1 hsome
          rw [← h.burst_peer] at hreport
          have hnumber : report.index = .peer n := Roster.index_of_get? hreport
          obtain ⟨heir, hmem, hhandle⟩ := hlisted n report hreport
          refine ⟨heir, hmem, hhandle.trans (identify_dialled (hnumber ▸ hnew) hfound ?_).1⟩
          rw [hhead, hnumber]
          rfl

/-! ### Separate handles -/

/-- No two calls of a survey share a handle, and none has one that was not given out yet. -/
structure Separate (s : Survey) : Prop where
  roster : ∀ a ∈ s.roster.calls, ∀ b ∈ s.roster.calls, a.handle = b.handle → a = b
  burst : ∀ a ∈ s.burst.calls, ∀ b ∈ s.burst.calls, a.handle = b.handle → a = b
  apart : ∀ a ∈ s.roster.calls, ∀ b ∈ s.burst.calls, a.handle ≠ b.handle
  given_roster : ∀ a ∈ s.roster.calls, a.handle.issuer = s.issuer ∧ a.handle.serial < s.issued
  given_burst : ∀ a ∈ s.burst.calls, a.handle.issuer = s.issuer ∧ a.handle.serial < s.issued

/-- Without reports there is nothing to tell apart but the calls of the roster. -/
theorem Separate.of_burst_empty (hburst : s.burst = .empty)
    (hroster : ∀ a ∈ s.roster.calls, ∀ b ∈ s.roster.calls, a.handle = b.handle → a = b)
    (hgiven : ∀ a ∈ s.roster.calls, a.handle.issuer = s.issuer ∧ a.handle.serial < s.issued) :
    s.Separate := by
  have hnone (a : Call) : a ∉ s.burst.calls := by
    rw [hburst]
    exact Roster.not_mem_empty a
  refine ⟨hroster, fun a ha => ?_, fun _ _ b hb => ?_, hgiven, fun a ha => ?_⟩
  · exact absurd ha (hnone a)
  · exact absurd hb (hnone b)
  · exact absurd ha (hnone a)

theorem Separate.of_empty (hroster : s.roster = .empty) (hburst : s.burst = .empty) :
    s.Separate := by
  have hnone (a : Call) : a ∉ s.roster.calls := by
    rw [hroster]
    exact Roster.not_mem_empty a
  exact .of_burst_empty hburst (fun a ha => absurd ha (hnone a)) fun a ha => absurd ha (hnone a)

/-- A handle is given out once. -/
theorem ne_nextHandle {a : Call} (h : a.handle.issuer = s.issuer ∧ a.handle.serial < s.issued) :
    a.handle ≠ s.nextHandle := by
  intro heq
  have hserial : a.handle.serial = s.issued := congrArg CallHandle.serial heq
  omega

/-- Calls whose handles tell them apart are still told apart when one with a new handle joins
them. -/
theorem separate_insert {r : Roster} {call : Call}
    (h : ∀ a ∈ r.calls, ∀ b ∈ r.calls, a.handle = b.handle → a = b)
    (hnew : ∀ a ∈ r.calls, a.handle ≠ call.handle) :
    ∀ a ∈ (r.insert call).calls, ∀ b ∈ (r.insert call).calls, a.handle = b.handle → a = b := by
  intro a ha b hb heq
  rcases Roster.mem_insert ha with hnewest | ha
  · rcases Roster.mem_insert hb with hnewest' | hb
    · rw [hnewest, hnewest']
    · exact absurd (heq.symm.trans (congrArg Call.handle hnewest)) (hnew b hb)
  · rcases Roster.mem_insert hb with hnewest | hb
    · exact absurd (heq.trans (congrArg Call.handle hnewest)) (hnew a ha)
    · exact h a ha b hb heq

theorem Separate.record (h : s.Separate) (report : CallReport) (now : Instant) :
    (s.record report now).Separate where
  roster := h.roster
  burst := separate_insert h.burst fun a ha => ne_nextHandle (h.given_burst a ha)
  apart a ha b hb := by
    rcases Roster.mem_insert hb with rfl | hb
    · exact ne_nextHandle (h.given_roster a ha)
    · exact h.apart a ha b hb
  given_roster a ha := ⟨(h.given_roster a ha).1, Nat.lt_succ_of_lt (h.given_roster a ha).2⟩
  given_burst a ha := by
    rcases Roster.mem_insert ha with rfl | ha
    · exact ⟨rfl, Nat.lt_succ_self _⟩
    · exact ⟨(h.given_burst a ha).1, Nat.lt_succ_of_lt (h.given_burst a ha).2⟩

theorem Separate.dial (h : s.Separate) {number : String} {now : Instant} {call : Call}
    (hdial : s.dial number now = .ok (call, next)) : next.Separate := by
  obtain ⟨-, rfl, rfl⟩ := dial_eq_ok hdial
  refine ⟨?_, h.burst, ?_, ?_, ?_⟩
  · exact separate_insert h.roster fun a ha => ne_nextHandle (h.given_roster a ha)
  · intro a ha b hb
    rcases Roster.mem_insert ha with rfl | ha
    · exact (ne_nextHandle (h.given_burst b hb)).symm
    · exact h.apart a ha b hb
  · intro a ha
    rcases Roster.mem_insert ha with rfl | ha
    · exact ⟨rfl, Nat.lt_succ_self _⟩
    · exact ⟨(h.given_roster a ha).1, Nat.lt_succ_of_lt (h.given_roster a ha).2⟩
  · intro a ha
    exact ⟨(h.given_burst a ha).1, Nat.lt_succ_of_lt (h.given_burst a ha).2⟩

/-- A call in the roster before a pass and one in the roster after it that have the same handle are
a call and its heir. -/
theorem Separate.heir_of_handle_eq (hs : s.Separate) (h : Tidy patience s heard) {old call : Call}
    (hold : old ∈ s.roster.calls) (hcall : call ∈ s.reconciled.calls)
    (heq : old.handle = call.handle) : call.index = s.heir old.index := by
  obtain ⟨origin, horigin, hhandle⟩ := exists_origin h hcall
  cases horigin with
  | continued hmem hindex =>
      obtain rfl : old = origin := hs.roster old hold origin hmem (heq.trans hhandle)
      exact hindex
  | recorded hmem _ => exact absurd (heq.trans hhandle) (hs.apart old hold origin hmem)

/-- No two calls in the roster after a pass share a handle. -/
theorem Separate.reconciled (hs : s.Separate) (h : Tidy patience s heard) {a b : Call}
    (ha : a ∈ s.reconciled.calls) (hb : b ∈ s.reconciled.calls) (heq : a.handle = b.handle) :
    a = b := by
  -- both come from the same call, and that has one heir
  obtain ⟨origin, horigin, hhandle⟩ := exists_origin h ha
  refine Roster.eq_of_index_eq ha hb ?_
  cases horigin with
  | continued hmem hindex =>
      have hheir := hs.heir_of_handle_eq h hmem hb (hhandle.symm.trans heq)
      rw [hindex, hheir]
  | recorded hmem hindex =>
      obtain ⟨origin', horigin', hhandle'⟩ := exists_origin h hb
      have hsame : origin'.handle = origin.handle := hhandle'.symm.trans (heq.symm.trans hhandle)
      cases horigin' with
      | continued hmem' _ => exact absurd hsame (hs.apart origin' hmem' origin hmem)
      | recorded hmem' hindex' =>
          obtain rfl : origin' = origin := hs.burst origin' hmem' origin hmem hsame
          rw [hindex, hindex']

theorem Separate.abandon (h : s.Separate) : s.abandon.2.Separate := by
  refine ⟨fun a ha b hb => ?_, h.burst, fun a ha => ?_, fun a ha => ?_, h.given_burst⟩
  · exact h.roster a (Roster.mem_erase ha) b (Roster.mem_erase hb)
  · exact h.apart a (Roster.mem_erase ha)
  · exact h.given_roster a (Roster.mem_erase ha)

theorem Separate.complete (hs : s.Separate) (h : Tidy patience s heard) (now : Instant) :
    (s.complete now).2.Separate := by
  cases hstuck : s.stuckAge now with
  | some age =>
      rw [complete_eq_of_stuck hstuck]
      exact .of_empty rfl rfl
  | none =>
      rw [complete_eq hstuck]
      refine .of_burst_empty rfl (fun a ha b hb => hs.reconciled h ha hb) ?_
      intro a ha
      obtain ⟨origin, horigin, hhandle⟩ := exists_origin h ha
      rw [hhandle]
      cases horigin with
      | continued hmem _ => exact hs.given_roster origin hmem
      | recorded hmem _ => exact hs.given_burst origin hmem

/-- **No two calls of a survey that can arise share a handle.** -/
theorem Arises.separate (h : Arises issuer patience s heard) : s.Separate := by
  induction h with
  | start => exact .of_empty rfl rfl
  | begin _ ih => exact .of_burst_empty rfl ih.roster ih.given_roster
  | record report now _ ih => exact ih.record report now
  | dial _ hdial ih => exact ih.dial hdial
  | abandon _ ih => exact ih.abandon
  | endAll _ _ => exact .of_empty rfl rfl
  | complete now harises ih => exact ih.complete harises.tidy now

end Survey

end AudioLink
