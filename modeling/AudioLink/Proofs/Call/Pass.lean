/-
**What a pass makes of the roster.**

A pass compares two things that have grown independently: the roster, which goes back to earlier
passes and to the calls dialled here, and the entries recorded since the burst was last emptied.
The survey keeps the latter in an ordered burst, one entry to an index; here they are a plain list
in the order in which they were recorded, of which the last entry of an index counts.  The law of a
pass is stated over that list, for every survey that can arise.

Main definitions:

* `AudioLink.Survey.Arises` — the surveys that can arise, each with the entries recorded since its
  burst was last emptied;
* `AudioLink.Survey.latest` — the entry that counts for an index;
* `AudioLink.Survey.IsNew` — the indices that were recorded and are not in the roster;
* `AudioLink.Survey.Reconciles` — what an ordinary pass does.

Main results:

* `AudioLink.Survey.Arises.tidy` — the burst holds exactly the entries that count, and a call
  dialled here is as it was dialled;
* `AudioLink.Survey.head?_added_eq_some_iff` — the call dialled here continues under the smallest
  new index;
* `AudioLink.Survey.complete_law` — **a pass gives up on a stuck call, with all others, or brings
  the roster in line with the entries**.
-/
import AudioLink.Proofs.Call.Reconciled

set_option relaxedAutoImplicit false
set_option autoImplicit false

namespace AudioLink

/-- One call continues another: it has the identity of that call and is as old. -/
def Call.Continues (call origin : Call) : Prop :=
  call.handle = origin.handle ∧ call.createdAt = origin.createdAt

namespace Survey

variable {issuer : Nat} {patience : Duration} {s next : Survey} {heard : List Call}

/-! ### Surveys that can arise -/

/-- The surveys that can arise from one without calls, each with the entries recorded since its
burst was last emptied. -/
inductive Arises (issuer : Nat) (patience : Duration) : Survey → List Call → Prop
  | start : Arises issuer patience (start issuer patience) []
  | begin {s : Survey} {heard : List Call} : Arises issuer patience s heard →
      Arises issuer patience s.begin []
  | record {s : Survey} {heard : List Call} (report : CallReport) (now : Instant) :
      Arises issuer patience s heard →
      Arises issuer patience (s.record report now)
        (heard ++ [.reported s.nextHandle report now])
  | dial {s next : Survey} {heard : List Call} {number : String} {now : Instant} {call : Call} :
      Arises issuer patience s heard → s.dial number now = .ok (call, next) →
      Arises issuer patience next heard
  | abandon {s : Survey} {heard : List Call} : Arises issuer patience s heard →
      Arises issuer patience s.abandon.2 heard
  | endAll {s : Survey} {heard : List Call} : Arises issuer patience s heard →
      Arises issuer patience s.endAll.2 []
  | complete {s : Survey} {heard : List Call} (now : Instant) : Arises issuer patience s heard →
      Arises issuer patience (s.complete now).2 []

/-- The entry that counts for an index: the one recorded last. -/
def latest (heard : List Call) (n : Nat) : Option Call :=
  heard.reverse.find? (·.index == .peer n)

/-- An index was recorded and is not in the roster. -/
def IsNew (s : Survey) (heard : List Call) (n : Nat) : Prop :=
  (latest heard n).isSome = true ∧ s.roster.get? (.peer n) = none

/-- A later entry takes the place of the earlier ones of its index. -/
theorem latest_snoc (heard : List Call) (call : Call) (n : Nat) :
    latest (heard ++ [call]) n = if call.index = .peer n then some call else latest heard n := by
  rw [latest, List.reverse_append]
  by_cases h : call.index = .peer n <;> simp [h, latest]

/-! ### What all of them have in common -/

/-- The burst holds the entries that count and nothing else, and the call dialled here is as it
was dialled. -/
structure Tidy (patience : Duration) (s : Survey) (heard : List Call) : Prop where
  burst_peer : ∀ n, s.burst.get? (.peer n) = latest heard n
  dialled : ∀ call, s.dialled = some call → call.state = .dialing ∧ call.multiparty = false
  patience : s.patience = patience

theorem dial_eq_ok {number : String} {now : Instant} {call : Call}
    (h : s.dial number now = .ok (call, next)) :
    s.dialled = none ∧ call = .outgoing s.nextHandle number now ∧
      next = { s with roster := s.roster.insert call, issued := s.issued + 1 } := by
  unfold dial at h
  split at h
  · cases h
  · next hnone =>
      obtain ⟨rfl, rfl⟩ := Prod.mk.inj (Except.ok.inj h)
      exact ⟨by simpa using hnone, rfl, rfl⟩

/-- Marking conferences leaves a call alone that is dialled and in no conference. -/
theorem get?_reconciled_local (h : Tidy patience s heard) :
    s.reconciled.get? .localOrigin = if s.added.isEmpty then s.dialled else none := by
  rw [reconciled, get?_markConference, get?_listed_local]
  cases s.added.isEmpty with
  | false => rfl
  | true =>
      cases hdialled : s.dialled with
      | none => rfl
      | some call =>
          obtain ⟨hstate, hmultiparty⟩ := h.dialled call hdialled
          cases call
          cases hstate
          cases hmultiparty
          rfl

theorem Arises.tidy (h : Arises issuer patience s heard) : Tidy patience s heard := by
  -- by the way the survey came about: most of what happens to it touches either the burst or the
  -- call dialled here; only a pass looks at both
  induction h with
  | start => exact ⟨fun _ => rfl, fun _ h => (nomatch h), rfl⟩
  | begin _ ih => exact ⟨fun _ => rfl, ih.dialled, ih.patience⟩
  | @record s heard report now _ ih =>
      refine ⟨fun n => ?_, ih.dialled, ih.patience⟩
      rw [get?_burst_record, latest_snoc, ih.burst_peer]
      rfl
  | @dial s next heard number now call _ hdial ih =>
      obtain ⟨-, rfl, rfl⟩ := dial_eq_ok hdial
      refine ⟨ih.burst_peer, fun call hcall => ?_, ih.patience⟩
      have hget : (s.roster.insert (.outgoing s.nextHandle number now)).get? .localOrigin =
          some call := hcall
      rw [Roster.get?_insert] at hget
      cases hget
      exact ⟨rfl, rfl⟩
  | @abandon s heard _ ih =>
      refine ⟨ih.burst_peer, fun call hcall => ?_, ih.patience⟩
      have hget : (s.roster.erase .localOrigin).get? .localOrigin = some call := hcall
      simp at hget
  | endAll _ ih => exact ⟨fun _ => rfl, fun _ h => (nomatch h), ih.patience⟩
  | @complete s heard now _ ih =>
      cases hstuck : s.stuckAge now with
      | some age =>
          rw [complete_eq_of_stuck hstuck]
          exact ⟨fun _ => rfl, fun _ h => (nomatch h), ih.patience⟩
      | none =>
          rw [complete_eq hstuck]
          refine ⟨fun _ => rfl, fun call hcall => ih.dialled call ?_, ih.patience⟩
          have hget : s.reconciled.get? .localOrigin = some call := hcall
          rw [get?_reconciled_local ih] at hget
          split at hget
          · exact hget
          · cases hget

/-! ### New indices -/

theorem mem_added (h : Tidy patience s heard) {n : Nat} : n ∈ s.added ↔ IsNew s heard n := by
  rw [added, List.mem_filter, Roster.mem_numbers, h.burst_peer, IsNew]
  simp

theorem added_isEmpty_iff (h : Tidy patience s heard) :
    s.added.isEmpty = true ↔ ∀ n, ¬IsNew s heard n := by
  rw [List.isEmpty_iff, List.eq_nil_iff_forall_not_mem]
  exact forall_congr' fun n => not_congr (mem_added h)

/-- The first number of an ascending list is its smallest. -/
theorem head?_eq_some_iff_of_ascending {numbers : List Nat} (h : numbers.Pairwise (· < ·))
    {n : Nat} : numbers.head? = some n ↔ n ∈ numbers ∧ ∀ m ∈ numbers, n ≤ m := by
  cases numbers with
  | nil => simp
  | cons first rest =>
      have hfirst : ∀ m ∈ rest, first < m := (List.pairwise_cons.1 h).1
      constructor
      · intro hn
        obtain rfl : first = n := Option.some.inj hn
        refine ⟨List.mem_cons_self .., fun m hm => ?_⟩
        rcases List.mem_cons.1 hm with rfl | hm
        · exact Nat.le_refl _
        · exact Nat.le_of_lt (hfirst m hm)
      · rintro ⟨hmem, hleast⟩
        rcases List.mem_cons.1 hmem with rfl | hmem
        · rfl
        · have hlt := hfirst n hmem
          have hle := hleast first (List.mem_cons_self ..)
          omega

/-- The index under which the call dialled here continues. -/
theorem head?_added_eq_some_iff (h : Tidy patience s heard) {n : Nat} :
    s.added.head? = some n ↔ IsNew s heard n ∧ ∀ m, IsNew s heard m → n ≤ m := by
  have hascend : s.added.Pairwise (· < ·) := (Roster.numbers_ascend _).filter _
  rw [head?_eq_some_iff_of_ascending hascend, mem_added h]
  exact and_congr_right' (forall_congr' fun m => imp_congr_left (mem_added h))

/-- The survey gives up when a call was dialled here, nothing is new, and patience is at an
end. -/
theorem stuckAge_eq_some_iff (h : Tidy patience s heard) {now : Instant} {age : Duration} :
    s.stuckAge now = some age ↔ ∃ call, s.dialled = some call ∧ (∀ n, ¬IsNew s heard n) ∧
      patience < call.age now ∧ call.age now = age := by
  unfold stuckAge
  split
  · next hempty =>
      rw [h.patience, Option.filter_eq_some_iff, Option.map_eq_some_iff, decide_eq_true_eq]
      constructor
      · rintro ⟨⟨call, hcall, rfl⟩, hlate⟩
        exact ⟨call, hcall, (added_isEmpty_iff h).1 hempty, hlate, rfl⟩
      · rintro ⟨call, hcall, -, hlate, rfl⟩
        exact ⟨⟨call, hcall, rfl⟩, hlate⟩
  · next hsome =>
      constructor
      · intro hnone
        cases hnone
      · rintro ⟨-, -, hnone, -⟩
        exact absurd ((added_isEmpty_iff h).2 hnone) hsome

/-! ### Where a listed call comes from -/

theorem identify_known {report known : Call} (h : s.roster.get? report.index = some known) :
    (s.identify report).Continues known := by
  rw [identify, h]
  exact ⟨rfl, rfl⟩

theorem identify_dialled {report call : Call} (hnew : s.roster.get? report.index = none)
    (hdialled : s.dialled = some call)
    (hfirst : s.added.head?.map CallIndex.peer = some report.index) :
    (s.identify report).Continues call := by
  rw [identify, hnew, hdialled]
  simp only [if_pos hfirst]
  exact ⟨rfl, rfl⟩

theorem identify_fresh {report : Call} (hnew : s.roster.get? report.index = none)
    (hother : s.dialled = none ∨ s.added.head?.map CallIndex.peer ≠ some report.index) :
    (s.identify report).Continues report := by
  rw [identify, hnew]
  cases hdialled : s.dialled with
  | none => exact ⟨rfl, rfl⟩
  | some call =>
      have hne := hother.resolve_left (by rw [hdialled]; exact Option.some_ne_none _)
      simp only [if_neg hne]
      exact ⟨rfl, rfl⟩

/-- A listed call comes from the entry that counts for its index. -/
theorem exists_of_get?_reconciled (h : Tidy patience s heard) {n : Nat} {call : Call}
    (hcall : s.reconciled.get? (.peer n) = some call) :
    ∃ report, latest heard n = some report ∧ report.index = .peer n ∧
      call.number = report.number ∧ call.state = report.state ∧
      call.Continues (s.identify report) := by
  rw [get?_reconciled, h.burst_peer] at hcall
  obtain ⟨report, hreport, rfl⟩ := Option.map_eq_some_iff.1 hcall
  have hindex : report.index = .peer n := by
    rw [← h.burst_peer] at hreport
    exact Roster.index_of_get? hreport
  exact ⟨report, hreport, hindex, number_identify s report, state_identify s report, rfl, rfl⟩

/-! ### The law of a pass -/

/-- What an ordinary pass does to a survey in which the entries `heard` were recorded. -/
structure Reconciles (s : Survey) (heard : List Call) (pass : Pass) (next : Survey) : Prop where
  stuck : pass.stuck = none
  /-- The numbered calls are those that were recorded. -/
  listed : ∀ n, (next.roster.get? (.peer n)).isSome = (latest heard n).isSome
  /-- Each has the number and the state it was last recorded with. -/
  said : ∀ n call report, next.roster.get? (.peer n) = some call →
    latest heard n = some report → call.number = report.number ∧ call.state = report.state
  /-- A known call goes on. -/
  known : ∀ n call old, next.roster.get? (.peer n) = some call →
    s.roster.get? (.peer n) = some old → call.Continues old
  /-- The call dialled here goes on under the smallest new index. -/
  dialled : ∀ n call placeholder, next.roster.get? (.peer n) = some call → IsNew s heard n →
    (∀ m, IsNew s heard m → n ≤ m) → s.dialled = some placeholder → call.Continues placeholder
  /-- Any other new call is the one recorded. -/
  fresh : ∀ n call report, next.roster.get? (.peer n) = some call → IsNew s heard n →
    (s.dialled = none ∨ ∃ m, IsNew s heard m ∧ m < n) → latest heard n = some report →
    call.Continues report
  /-- The call dialled here stays as it is exactly as long as nothing is new. -/
  unlisted : ∀ call, next.roster.get? .localOrigin = some call ↔
    s.dialled = some call ∧ ∀ n, ¬IsNew s heard n
  pollAgain : pass.pollAgain = true ↔ next.roster.calls ≠ []
  /-- First the numbered calls that were not recorded are announced as ended, then the calls that
  are not what stood under their index before, both in order. -/
  changed : pass.changed =
    (s.roster.calls.filter fun call =>
      call.index.number?.any fun n => (latest heard n).isNone).map Call.ended ++
    next.roster.calls.filter fun call => s.roster.get? call.index != some call

theorem announced_eq (h : Tidy patience s heard) : s.announced =
    (s.roster.calls.filter fun call =>
      call.index.number?.any fun n => (latest heard n).isNone).map Call.ended ++
    s.reconciled.calls.filter fun call => s.roster.get? call.index != some call := by
  unfold announced
  congr 2
  refine List.filter_congr fun call _ => ?_
  cases hindex : call.index with
  | localOrigin => rfl
  | peer n => simp [CallIndex.number?, h.burst_peer]

theorem reconciles_of_tidy (h : Tidy patience s heard) :
    Reconciles s heard ⟨s.announced, none, !s.reconciled.isEmpty⟩
      { s with roster := s.reconciled, burst := .empty, numbered := rfl } where
  stuck := rfl
  listed n := by
    show (s.reconciled.get? (.peer n)).isSome = _
    rw [get?_reconciled, h.burst_peer, Option.isSome_map]
  said n call report hcall hreport := by
    obtain ⟨report', hreport', -, hnumber, hstate, -⟩ := exists_of_get?_reconciled h hcall
    obtain rfl : report' = report := Option.some.inj (hreport'.symm.trans hreport)
    exact ⟨hnumber, hstate⟩
  known n call old hcall hold := by
    obtain ⟨report, -, hindex, -, -, hhandle, hage⟩ := exists_of_get?_reconciled h hcall
    have hcontinues : (s.identify report).Continues old := identify_known (hindex ▸ hold)
    exact ⟨hhandle.trans hcontinues.1, hage.trans hcontinues.2⟩
  dialled n call placeholder hcall hnew hleast hplaceholder := by
    obtain ⟨report, -, hindex, -, -, hhandle, hage⟩ := exists_of_get?_reconciled h hcall
    have hhead : s.added.head? = some n := (head?_added_eq_some_iff h).2 ⟨hnew, hleast⟩
    have hcontinues : (s.identify report).Continues placeholder :=
      identify_dialled (hindex ▸ hnew.2) hplaceholder (by rw [hhead, hindex]; rfl)
    exact ⟨hhandle.trans hcontinues.1, hage.trans hcontinues.2⟩
  fresh n call report hcall hnew hother hreport := by
    obtain ⟨report', hreport', hindex, -, -, hhandle, hage⟩ := exists_of_get?_reconciled h hcall
    obtain rfl : report' = report := Option.some.inj (hreport'.symm.trans hreport)
    have hcontinues : (s.identify report').Continues report' := by
      refine identify_fresh (hindex ▸ hnew.2) (hother.imp_right ?_)
      rintro ⟨m, hm, hlt⟩ hhead
      rw [hindex, Option.map_eq_some_iff] at hhead
      obtain ⟨n', hn', hpeer⟩ := hhead
      cases hpeer
      -- were it the first new index, the smaller one could not be new
      have hle := ((head?_added_eq_some_iff h).1 hn').2 m hm
      omega
    exact ⟨hhandle.trans hcontinues.1, hage.trans hcontinues.2⟩
  unlisted call := by
    show s.reconciled.get? .localOrigin = some call ↔ _
    -- of all calls, only the one dialled here can stand under the index of this side
    rw [get?_reconciled_local h, ← added_isEmpty_iff h]
    cases s.added.isEmpty with
    | true => simp
    | false => simp
  pollAgain := by
    rw [Bool.not_eq_true', Roster.isEmpty, List.isEmpty_eq_false_iff]
  changed := announced_eq h

/-- **The law of a pass.**  When a call was dialled here, nothing is new and patience is at an
end, the pass gives up: every call is announced as ended, in order, and none is left.  Otherwise
it brings the roster in line with what was recorded. -/
theorem complete_law (h : Arises issuer patience s heard) (now : Instant) :
    (∀ placeholder, s.dialled = some placeholder → (∀ n, ¬IsNew s heard n) →
      patience < placeholder.age now →
      (s.complete now).1 =
          ⟨s.roster.calls.map Call.ended, some (placeholder.age now), false⟩ ∧
        (s.complete now).2.roster.calls = []) ∧
    ((∀ placeholder, s.dialled = some placeholder →
        (∃ n, IsNew s heard n) ∨ placeholder.age now ≤ patience) →
      Reconciles s heard (s.complete now).1 (s.complete now).2) := by
  have htidy := h.tidy
  constructor
  · intro placeholder hplaceholder hnone hlate
    have hstuck : s.stuckAge now = some (placeholder.age now) :=
      (stuckAge_eq_some_iff htidy).2 ⟨placeholder, hplaceholder, hnone, hlate, rfl⟩
    rw [complete_eq_of_stuck hstuck]
    exact ⟨rfl, rfl⟩
  · intro hgoing
    have hstuck : s.stuckAge now = none := by
      rw [Option.eq_none_iff_forall_ne_some]
      intro age hage
      obtain ⟨call, hcall, hnone, hlate, -⟩ := (stuckAge_eq_some_iff htidy).1 hage
      rcases hgoing call hcall with ⟨n, hn⟩ | hle
      · exact hnone n hn
      · exact Nat.not_lt.2 hle hlate
    rw [complete_eq hstuck]
    exact reconciles_of_tidy htidy

/-- A call that is held since the instant 0, and another that is dialled at the instant 2. -/
def dialling : Survey :=
  let held := ((start 7 10).record ⟨1, .incoming, .held, false, "1"⟩ 0).complete 0
  match held.2.dial "555" 2 with
  | .ok (_, s) => s
  | .error _ => held.2

theorem arises_dialling : Arises 7 10 dialling [] :=
  .dial (.complete 0 (.record ⟨1, .incoming, .held, false, "1"⟩ 0 .start)) rfl

/-- When the gateway lists only the held call, both are given up after the instant 12; when it
lists two new calls, in the wrong order, the pass is an ordinary one even then. -/
theorem complete_law_dialling :
    let again := dialling.record ⟨1, .incoming, .held, false, "1"⟩ 3
    let more := (again.record ⟨5, .incoming, .waiting, false, "7"⟩ 4).record
      ⟨4, .outgoing, .alerting, false, "555"⟩ 4
    ((again.complete 13).1 = ⟨dialling.roster.calls.map Call.ended, some 11, false⟩ ∧
      (again.complete 13).2.roster.calls = []) ∧
    Reconciles more
      [.reported ⟨7, 2⟩ ⟨1, .incoming, .held, false, "1"⟩ 3,
        .reported ⟨7, 3⟩ ⟨5, .incoming, .waiting, false, "7"⟩ 4,
        .reported ⟨7, 4⟩ ⟨4, .outgoing, .alerting, false, "555"⟩ 4]
      (more.complete 13).1 (more.complete 13).2 := by
  have hagain := Arises.record ⟨1, .incoming, .held, false, "1"⟩ 3 arises_dialling
  constructor
  · exact (complete_law hagain 13).1 (.outgoing ⟨7, 1⟩ "555" 2) rfl
      ((added_isEmpty_iff hagain.tidy).1 (by decide)) (by decide)
  · refine (complete_law (.record _ 4 (.record _ 4 hagain)) 13).2 fun _ _ => .inl ⟨4, ?_, ?_⟩
    · rfl
    · rfl

end Survey

end AudioLink
