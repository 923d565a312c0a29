/-
**A pass as a whole.**

When the list of calls is complete, a pass goes through numbers: those that are no longer reported,
those that are new, and those that are known, with one change of the roster for each.  What a pass
comes to is said more simply of the calls themselves: every reported call is identified with the one
that it continues, and nothing else is left but a call dialled here that has no number yet.  Both
are the same, for any survey; what is proved of a pass later is proved of the latter.

Main definitions:

* `AudioLink.Survey.identify` — the call that stands for a reported one after the pass;
* `AudioLink.Survey.reconciled`, `AudioLink.Survey.announced` — the roster after a pass, and the
  calls to announce;
* `AudioLink.Survey.stuckAge` — the age of a call that is given up.

Main results:

* `AudioLink.Roster.ext_get?` — a roster is known by the calls found in it;
* `AudioLink.Survey.get?_removeAll`, `AudioLink.Survey.get?_enterAll`,
  `AudioLink.Survey.get?_absorbAll` — what is found after each loop of a pass;
* `AudioLink.Survey.complete_eq`, `AudioLink.Survey.complete_eq_of_stuck` — **a pass, step by step,
  comes to the roster and the announcements as a whole**;
* `AudioLink.Survey.get?_reconciled` — which call stands under each number after a pass.
-/
import AudioLink.Call.Survey
import Mathlib.Data.List.Sort

set_option relaxedAutoImplicit false
set_option autoImplicit false

namespace AudioLink

/-! ### The numbers of a roster -/

namespace Roster

theorem mem_numbers {r : Roster} {n : Nat} : n ∈ r.numbers ↔ (r.get? (.peer n)).isSome = true := by
  rw [Option.isSome_iff_exists, numbers, List.mem_filterMap]
  constructor
  · rintro ⟨call, hmem, hnumber⟩
    have hindex : call.index = .peer n := by
      cases h : call.index with
      | localOrigin => rw [h] at hnumber; cases hnumber
      | peer m =>
          rw [h] at hnumber
          exact congrArg CallIndex.peer (Option.some.inj hnumber)
    exact ⟨call, hindex ▸ get?_of_mem hmem⟩
  · rintro ⟨call, h⟩
    refine ⟨call, mem_of_get? h, ?_⟩
    rw [index_of_get? h]
    rfl

/-- The numbers of a roster ascend with its calls. -/
theorem numbers_ascend (r : Roster) : r.numbers.Pairwise (· < ·) := by
  rw [numbers, List.pairwise_filterMap]
  refine r.sorted.imp ?_
  intro a b hab n hn m hm
  cases ha : a.index with
  | localOrigin => rw [ha] at hn; cases hn
  | peer n' =>
      cases hb : b.index with
      | localOrigin => rw [hb] at hm; cases hm
      | peer m' =>
          rw [ha] at hn
          rw [hb] at hm
          cases hn
          cases hm
          simpa [ha, hb, CallIndex.rank] using hab

theorem nodup_numbers (r : Roster) : r.numbers.Nodup :=
  r.numbers_ascend.imp fun hlt => Nat.ne_of_lt hlt

theorem nodup_calls (r : Roster) : r.calls.Nodup := by
  refine r.sorted.imp ?_
  rintro a b hlt rfl
  exact Nat.lt_irrefl _ hlt

/-- A roster is known by the calls found in it. -/
theorem ext_get? {r r' : Roster} (h : ∀ index, r.get? index = r'.get? index) : r = r' := by
  have hmem (call : Call) : call ∈ r.calls ↔ call ∈ r'.calls := by
    rw [mem_calls_iff, mem_calls_iff, h]
  have hperm := (List.perm_ext_iff_of_nodup r.nodup_calls r'.nodup_calls).2 hmem
  have hcalls : r.calls = r'.calls := by
    refine hperm.eq_of_pairwise (fun a b _ _ hab hba => ?_) r.sorted r'.sorted
    exact absurd hab (Nat.lt_asymm hba)
  cases r
  cases hcalls
  rfl

end Roster

namespace Survey

variable {s : Survey} {now : Instant}

/-! ### What a pass comes to -/

/-- The call that stands for a reported one from now on: the known call of that number brought up
to date; under the first new number the call dialled here, brought up to date as well; otherwise
the report itself. -/
def identify (s : Survey) (report : Call) : Call :=
  match s.roster.get? report.index with
  | some known => known.absorb report
  | none =>
      match s.dialled with
      | some call =>
          if s.added.head?.map CallIndex.peer = some report.index then
            { call.absorb report with index := report.index }
          else report
      | none => report

/-- The reported calls, and the call dialled here as long as nothing new was reported. -/
def listed (s : Survey) : Roster :=
  let reported := s.burst.revise s.identify
  match s.dialled with
  | some call => if s.added.isEmpty then reported.insert call else reported
  | none => reported

/-- The roster after a pass. -/
def reconciled (s : Survey) : Roster := markConference s.listed

/-- The calls to announce after a pass: first the numbered ones that are no longer reported, as
ended, then those that are new or differ from what stood under their index. -/
def announced (s : Survey) : List Call :=
  (s.roster.calls.filter fun call =>
      call.index != .localOrigin && !s.burst.contains call.index).map Call.ended ++
    s.reconciled.calls.filter fun call => s.roster.get? call.index != some call

/-- The age of the call dialled here, when the gateway lists nothing new and patience is at an
end. -/
def stuckAge (s : Survey) (now : Instant) : Option Duration :=
  if s.added.isEmpty then (s.dialled.map (·.age now)).filter (s.patience < ·) else none

@[simp] theorem index_identify (s : Survey) (report : Call) :
    (s.identify report).index = report.index := by
  unfold identify
  split
  · next known h => exact (Roster.index_of_get? h : known.index = _)
  · split
    · split <;> rfl
    · rfl

@[simp] theorem number_identify (s : Survey) (report : Call) :
    (s.identify report).number = report.number := by
  unfold identify
  split
  · rfl
  · split
    · split <;> rfl
    · rfl

@[simp] theorem state_identify (s : Survey) (report : Call) :
    (s.identify report).state = report.state := by
  unfold identify
  split
  · rfl
  · split
    · split <;> rfl
    · rfl

theorem get?_listed_peer (s : Survey) (n : Nat) :
    s.listed.get? (.peer n) = (s.burst.get? (.peer n)).map s.identify := by
  have revised : (s.burst.revise s.identify).get? (.peer n) =
      (s.burst.get? (.peer n)).map s.identify := by
    rw [Roster.get?_revise]
    congr 1
    funext c
    rw [← index_identify s c]
  unfold listed
  split
  · next call h =>
      have : call.index = .localOrigin := Roster.index_of_get? h
      split <;> simp [revised, this]
  · exact revised

/-- What the gateway reported stands under numbers only, so that after an ordinary pass the call
dialled here is still the old one, or none. -/
theorem get?_listed_local (s : Survey) :
    s.listed.get? .localOrigin = if s.added.isEmpty then s.dialled else none := by
  have hburst : (s.burst.revise s.identify).get? .localOrigin = none := by
    rw [Roster.get?_revise, s.numbered]
    rfl
  unfold listed
  cases hdialled : s.dialled with
  | none =>
      rw [hburst]
      exact (ite_self none).symm
  | some call =>
      have hindex : call.index = .localOrigin := Roster.index_of_get? hdialled
      cases s.added.isEmpty with
      | true => simp [hindex]
      | false => simpa using hburst

/-- After a pass the numbered calls are the reported ones, each identified with the call it
continues. -/
theorem get?_reconciled (s : Survey) (n : Nat) :
    s.reconciled.get? (.peer n) = (s.burst.get? (.peer n)).map fun report =>
      { s.identify report with
        multiparty := report.state == .active && 1 < s.listed.countIn .active } := by
  simp [reconciled, get?_markConference, get?_listed_peer, Option.map_map, Function.comp_def]

/-! ### The loops of a pass -/

section Loops

variable {burst r : Roster} {numbers : List Nat} {index : CallIndex}

/-- What is taken away is no longer found. -/
theorem get?_removeAll : (removeAll r numbers).2.get? index =
    if index ∈ numbers.map CallIndex.peer then none else r.get? index := by
  induction numbers generalizing r with
  | nil => rfl
  | cons n rest ih =>
      have hrest : (removeAll r (n :: rest)).2 = (removeAll (r.erase (.peer n)) rest).2 := rfl
      rw [hrest, ih, Roster.get?_erase]
      by_cases heq : index = .peer n <;> simp [heq]

/-- What is taken away is handed back in order. -/
theorem fst_removeAll (honce : numbers.Nodup) : (removeAll r numbers).1 =
    numbers.filterMap fun n => (r.get? (.peer n)).map Call.ended := by
  induction numbers generalizing r with
  | nil => rfl
  | cons n rest ih =>
      obtain ⟨hn, honce⟩ := List.nodup_cons.1 honce
      have hothers : (rest.filterMap fun m => ((r.erase (.peer n)).get? (.peer m)).map Call.ended) =
          rest.filterMap fun m => (r.get? (.peer m)).map Call.ended := by
        refine List.filterMap_congr fun m hm => ?_
        have hne : m ≠ n := fun heq => hn (heq ▸ hm)
        simp [hne]
      have hcons : (removeAll r (n :: rest)).1 = ((r.get? (.peer n)).map Call.ended).toList ++
          (removeAll (r.erase (.peer n)) rest).1 := rfl
      rw [hcons, ih honce, hothers]
      cases hget : r.get? (.peer n) <;> simp [hget]

variable (hreported : ∀ n ∈ numbers, (burst.get? (.peer n)).isSome = true)

include hreported

/-- What is entered is found as it was reported. -/
theorem get?_enterAll : (enterAll burst r numbers).get? index =
    if index ∈ numbers.map CallIndex.peer then burst.get? index else r.get? index := by
  induction numbers generalizing r with
  | nil => rfl
  | cons n rest ih =>
      obtain ⟨report, hreport⟩ := Option.isSome_iff_exists.1 (hreported n (List.mem_cons_self ..))
      have hindex : report.index = .peer n := Roster.index_of_get? hreport
      rw [enterAll, hreport]
      refine (ih fun m hm => hreported m (List.mem_cons_of_mem _ hm)).trans ?_
      rw [Roster.get?_insert, hindex]
      by_cases heq : index = .peer n
      · simp [heq, hreport]
      · simp [heq, Ne.symm heq]

/-- What is brought up to date is found so; nothing comes of bringing it up to date again. -/
theorem get?_absorbAll : (absorbAll burst r numbers).get? index =
    if index ∈ numbers.map CallIndex.peer then
      (r.get? index).bind fun call => (burst.get? index).map call.absorb
    else r.get? index := by
  induction numbers generalizing r with
  | nil => rfl
  | cons n rest ih =>
      obtain ⟨report, hreport⟩ := Option.isSome_iff_exists.1 (hreported n (List.mem_cons_self ..))
      have ih {r : Roster} := ih (r := r) fun m hm => hreported m (List.mem_cons_of_mem _ hm)
      cases hcall : r.get? (.peer n) with
      | none =>
          have hskip : absorbAll burst r (n :: rest) = absorbAll burst r rest := by
            rw [absorbAll, hcall]
          rw [hskip, ih]
          by_cases heq : index = .peer n <;> simp [heq, hcall]
      | some call =>
          have hindex : call.index = .peer n := Roster.index_of_get? hcall
          have hstep : absorbAll burst r (n :: rest) =
              absorbAll burst (r.insert (call.absorb report)) rest := by
            rw [absorbAll, hcall, hreport]
          rw [hstep, ih, Roster.get?_insert, Call.index_absorb, hindex]
          by_cases heq : index = .peer n
          · simp [heq, hcall, hreport]
          · simp [heq, Ne.symm heq]

end Loops

/-! ### Numbers of one kind -/

theorem mem_added_iff {n : Nat} : n ∈ s.added ↔
    (s.burst.get? (.peer n)).isSome = true ∧ s.roster.get? (.peer n) = none := by
  simp [added, List.mem_filter, Roster.mem_numbers]

theorem mem_removed_iff {n : Nat} : n ∈ s.removed ↔
    (s.roster.get? (.peer n)).isSome = true ∧ s.burst.get? (.peer n) = none := by
  simp [removed, List.mem_filter, Roster.mem_numbers]

theorem mem_retained_iff {n : Nat} : n ∈ s.retained ↔
    (s.roster.get? (.peer n)).isSome = true ∧ (s.burst.get? (.peer n)).isSome = true := by
  simp [retained, List.mem_filter, Roster.mem_numbers]

theorem mem_map_peer {n : Nat} {numbers : List Nat} :
    CallIndex.peer n ∈ numbers.map CallIndex.peer ↔ n ∈ numbers := by
  simp

theorem nodup_added (s : Survey) : s.added.Nodup := s.burst.nodup_numbers.filter _

theorem nodup_removed (s : Survey) : s.removed.Nodup := s.roster.nodup_numbers.filter _

/-- The call dialled here is found under its new number, and nothing else changes. -/
theorem get?_rename {call : Call} (hdialled : s.dialled = some call) (n : Nat) (index : CallIndex) :
    (rename s.roster n).get? index =
      if index = .peer n then some { call with index := .peer n }
      else if index = .localOrigin then none else s.roster.get? index := by
  have hget : s.roster.get? .localOrigin = some call := hdialled
  rw [rename, hget]
  simp only [Roster.get?_insert, Roster.get?_erase, eq_comm (a := index) (b := .peer n)]

/-! ### The steps and the whole -/

/-- The loops of a pass may begin with these calls, these numbers to be entered, and these to be
brought up to date: what they find under each reported number is what it is identified with. -/
structure Fits (s : Survey) (r : Roster) (added retained : List Nat) : Prop where
  dialled : r.get? .localOrigin = if s.added.isEmpty then s.dialled else none
  unlisted : ∀ n, s.burst.get? (.peer n) = none →
    n ∉ added ∧ n ∉ retained ∧ r.get? (.peer n) = s.roster.get? (.peer n)
  listed : ∀ n report, s.burst.get? (.peer n) = some report →
    n ∈ added ∧ n ∉ retained ∧ s.identify report = report ∨
      n ∉ added ∧ n ∈ retained ∧
        ∃ call, r.get? (.peer n) = some call ∧ s.identify report = call.absorb report

/-- Without a call that is dialled here and comes to be listed, a pass begins with the calls as they
are. -/
theorem fits_roster (hnone : s.dialled = none ∨ s.added = []) :
    Fits s s.roster s.added s.retained where
  dialled := by
    rcases hnone with hnone | hnone
    · rw [hnone, ite_self]
      exact hnone
    · rw [hnone]
      rfl
  unlisted n hunlisted := by simp [mem_added_iff, mem_retained_iff, hunlisted]
  listed n report hreport := by
    have hindex : report.index = .peer n := Roster.index_of_get? hreport
    cases hknown : s.roster.get? (.peer n) with
    | some known =>
        refine .inr ⟨?_, mem_retained_iff.2 ?_, known, rfl, ?_⟩
        · simp [mem_added_iff, hknown]
        · simp [hknown, hreport]
        · rw [identify, hindex, hknown]
    | none =>
        have hadded : n ∈ s.added := mem_added_iff.2 ⟨by simp [hreport], hknown⟩
        refine .inl ⟨hadded, ?_, ?_⟩
        · simp [mem_retained_iff, hknown]
        · rw [identify, hindex, hknown]
          rcases hnone with hnone | hnone
          · rw [hnone]
          · rw [hnone] at hadded
            cases hadded

/-- A call that is dialled here goes on under the first new number; there it is brought up to date,
and not entered. -/
theorem fits_rename {call : Call} {first : Nat} {others : List Nat}
    (hdialled : s.dialled = some call) (hadded : s.added = first :: others) :
    Fits s (rename s.roster first) others (first :: s.retained) where
  dialled := by
    rw [get?_rename hdialled, hadded]
    rfl
  unlisted n hunlisted := by
    have hnew : n ∉ s.added := by simp [mem_added_iff, hunlisted]
    rw [hadded, List.mem_cons, not_or] at hnew
    refine ⟨hnew.2, ?_, ?_⟩
    · rw [List.mem_cons, not_or]
      exact ⟨hnew.1, by simp [mem_retained_iff, hunlisted]⟩
    · simp [get?_rename hdialled, hnew.1]
  listed n report hreport := by
    have hindex : report.index = .peer n := Roster.index_of_get? hreport
    have honce := s.nodup_added
    rw [hadded, List.nodup_cons] at honce
    cases hknown : s.roster.get? (.peer n) with
    | some known =>
        have hnew : n ∉ s.added := by simp [mem_added_iff, hknown]
        rw [hadded, List.mem_cons, not_or] at hnew
        refine .inr ⟨hnew.2, List.mem_cons_of_mem _ (mem_retained_iff.2 ?_), known, ?_, ?_⟩
        · simp [hknown, hreport]
        · simp [get?_rename hdialled, hnew.1, hknown]
        · rw [identify, hindex, hknown]
    | none =>
        have hnew : n ∈ s.added := mem_added_iff.2 ⟨by simp [hreport], hknown⟩
        rw [hadded, List.mem_cons] at hnew
        -- the first new number is that of the call dialled here
        by_cases hfirst : n = first
        · refine .inr ⟨hfirst ▸ honce.1, hfirst ▸ List.mem_cons_self .., ?_⟩
          refine ⟨{ call with index := .peer n }, ?_, ?_⟩
          · simp [get?_rename hdialled, hfirst]
          · rw [identify, hindex, hknown, hdialled, hadded, hfirst]
            simp [Call.absorb]
        · refine .inl ⟨hnew.resolve_left hfirst, ?_, ?_⟩
          · simp [mem_retained_iff, hknown, hfirst]
          · rw [identify, hindex, hknown, hdialled, hadded]
            simp [Ne.symm hfirst]

namespace Fits

variable {r : Roster} {added retained : List Nat} (h : Fits s r added retained)

include h

theorem isSome_added {n : Nat} (hn : n ∈ added) : (s.burst.get? (.peer n)).isSome = true :=
  Option.isSome_iff_ne_none.2 fun hunlisted => (h.unlisted n hunlisted).1 hn

theorem isSome_retained {n : Nat} (hn : n ∈ retained) :
    (s.burst.get? (.peer n)).isSome = true :=
  Option.isSome_iff_ne_none.2 fun hunlisted => (h.unlisted n hunlisted).2.1 hn

/-- The loops lead to the reported calls, each identified with the one that it continues. -/
theorem absorbAll_eq_listed :
    absorbAll s.burst (enterAll s.burst (removeAll r s.removed).2 added) retained = s.listed := by
  refine Roster.ext_get? fun index => ?_
  rw [get?_absorbAll fun n hn => h.isSome_retained hn, get?_enterAll fun n hn => h.isSome_added hn,
    get?_removeAll]
  cases index with
  | localOrigin =>
      rw [get?_listed_local, ← h.dialled]
      simp
  | peer n =>
      simp only [get?_listed_peer, mem_map_peer]
      cases hreport : s.burst.get? (.peer n) with
      | none =>
          obtain ⟨hadded, hretained, hsame⟩ := h.unlisted n hreport
          rw [if_neg hretained, if_neg hadded, hsame, Option.map_none]
          -- what is not reported was taken away, or was not there
          split
          · rfl
          · next hremoved => simpa [mem_removed_iff, hreport] using hremoved
      | some report =>
          have hremoved : n ∉ s.removed := by simp [mem_removed_iff, hreport]
          rcases h.listed n report hreport with
            ⟨hadded, hretained, hself⟩ | ⟨hadded, hretained, call, hcall, hcontinues⟩
          · rw [if_neg hretained, if_pos hadded, Option.map_some, hself]
          · rw [if_pos hretained, if_neg hadded, if_neg hremoved, hcall, Option.map_some,
              hcontinues]
            rfl

/-- The calls taken away are the numbered ones that are no longer reported. -/
theorem fst_removeAll_eq : (removeAll r s.removed).1 =
    (s.roster.calls.filter fun call =>
      call.index != .localOrigin && !s.burst.contains call.index).map Call.ended := by
  have hsame : (s.removed.filterMap fun n => (r.get? (.peer n)).map Call.ended) =
      s.removed.filterMap fun n => (s.roster.get? (.peer n)).map Call.ended := by
    refine List.filterMap_congr fun n hn => ?_
    rw [(h.unlisted n (mem_removed_iff.1 hn).2).2.2]
  rw [fst_removeAll s.nodup_removed, hsame, removed, Roster.numbers, List.filter_filterMap,
    List.filterMap_filterMap, ← List.filterMap_eq_map, List.filterMap_filter]
  refine List.filterMap_congr fun call hcall => ?_
  have hfound := Roster.get?_of_mem hcall
  cases hindex : call.index with
  | localOrigin => simp [CallIndex.number?]
  | peer n =>
      rw [hindex] at hfound
      by_cases hlisted : s.burst.get? (.peer n) = none <;>
        simp [CallIndex.number?, Option.filter, hlisted, hfound]

/-- The steps come to the whole. -/
theorem align_eq : s.align r added retained =
    (⟨s.announced, none, !s.reconciled.isEmpty⟩,
      { s with roster := s.reconciled, burst := .empty, numbered := rfl }) := by
  rw [align]
  simp only [h.absorbAll_eq_listed, h.fst_removeAll_eq]
  rfl

end Fits

/-- **A pass that gives up nothing brings the roster in line with the reports.** -/
theorem complete_eq (hgoing : s.stuckAge now = none) : s.complete now =
    (⟨s.announced, none, !s.reconciled.isEmpty⟩,
      { s with roster := s.reconciled, burst := .empty, numbered := rfl }) := by
  rw [complete]
  cases hdialled : s.dialled with
  | none => exact (fits_roster (.inl hdialled)).align_eq
  | some call =>
      cases hadded : s.added with
      | nil =>
          have hpatient : ¬s.patience < call.age now := by
            simpa [stuckAge, hadded, hdialled] using hgoing
          have hfits := fits_roster (.inr hadded)
          rw [hadded] at hfits
          simp only [if_neg hpatient]
          exact hfits.align_eq
      | cons first others => exact (fits_rename hdialled hadded).align_eq

/-- **A pass that finds the call dialled here stuck gives up every call.** -/
theorem complete_eq_of_stuck {age : Duration} (hstuck : s.stuckAge now = some age) :
    s.complete now = (⟨s.endAll.1, some age, false⟩, s.endAll.2) := by
  rw [stuckAge] at hstuck
  split at hstuck
  · next hadded =>
      obtain ⟨hage, hlate⟩ := Option.filter_eq_some_iff.1 hstuck
      obtain ⟨call, hdialled, rfl⟩ := Option.map_eq_some_iff.1 hage
      rw [complete, hdialled, List.isEmpty_iff.1 hadded]
      simp only [if_pos (of_decide_eq_true hlate)]
  · cases hstuck

end Survey

end AudioLink
