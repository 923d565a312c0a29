/-
**An agenda of alarms.**

All that matters about pending alarms is when each kind goes off and when it was armed last.  The
list of alarms says just that: it holds every kind once, in the order of arming, and whatever is
done to it can be told from the agenda alone.  Of the alarms that are due, the one that goes off
first is served first, and of two that go off at once the one that was armed first.

Main definitions:

* `AudioLink.Agenda` — for each kind that is pending, when it goes off and when it was armed;
* `AudioLink.Alarms.Change`, `AudioLink.Alarms.perform`, `AudioLink.Alarms.run` — what is done to
  alarms, what it comes to, and the same for any number of changes;
* `AudioLink.Agenda.Performs`, `AudioLink.Agenda.Runs` — the same for an agenda;
* `AudioLink.Alarms.Shows` — a list of alarms shows an agenda;
* `AudioLink.Alarms.serveAll`, `AudioLink.Agenda.AllDue` — all that is due is served, one alarm
  after the other, and which kinds of alarms those are;
* `AudioLink.Alarms.Mirrors` — whatever can be told of alarms is told by the agenda that they show.

Main results:

* `AudioLink.Alarms.exists_split_of_popDue` — the alarm that is served is the first of the earliest;
* `AudioLink.Alarms.Shows.schedule`, `AudioLink.Alarms.Shows.cancelWhere`,
  `AudioLink.Alarms.Shows.popDue` — what each change does to the agenda;
* `AudioLink.Alarms.Shows.perform`, `AudioLink.Alarms.run_shows` — one change, and any number;
* `AudioLink.Agenda.Runs.unique` — there is one agenda at most that some changes lead to;
* `AudioLink.Alarms.Shows.serveAll` — every alarm that is due is served once;
* `AudioLink.Alarms.run_mirrors` — **what becomes of alarms, whatever is done to them**.
-/

import AudioLink.Proofs.Alarms
import Mathlib.Data.List.Induction
import Mathlib.Data.List.Pairwise
import Mathlib.Order.Bounds.Defs

set_option relaxedAutoImplicit false
set_option autoImplicit false

namespace AudioLink

variable {κ : Type}

/-! ### Agendas -/

/-- When a pending alarm goes off, and after how many changes it was armed last. -/
structure Appointment where
  deadline : Instant
  armed : Nat

/-- An appointment comes before another: it is earlier, or at the same instant and made before. -/
def Appointment.Precedes (first second : Appointment) : Prop :=
  first.deadline < second.deadline ∨
    first.deadline = second.deadline ∧ first.armed < second.armed

/-- The appointment of each kind of alarm that is pending. -/
abbrev Agenda (κ : Type) := κ → Option Appointment

namespace Agenda

/-- Nothing is pending. -/
def blank : Agenda κ := fun _ => none

/-- The agenda without some kinds. -/
def without (agenda : Agenda κ) (p : κ → Bool) : Agenda κ := fun kind =>
  if p kind then none else agenda kind

theorem of_without {agenda : Agenda κ} {p : κ → Bool} {kind : κ} {appointment : Appointment}
    (h : agenda.without p kind = some appointment) : agenda kind = some appointment := by
  rw [without, Option.ite_none_left_eq_some] at h
  exact h.2

/-- A kind of alarm is to be served first at an instant: it is due, and its appointment precedes
those of all others that are. -/
def First (agenda : Agenda κ) (now : Instant) (kind : κ) : Prop :=
  ∃ appointment, agenda kind = some appointment ∧ appointment.deadline ≤ now ∧
    ∀ other later, other ≠ kind → agenda other = some later → later.deadline ≤ now →
      appointment.Precedes later

end Agenda

namespace Alarms

variable [DecidableEq κ]

/-! ### Changes -/

/-- What is done to alarms. -/
inductive Change (κ : Type) where
  | schedule (kind : κ) (deadline : Instant)
  | cancel (kind : κ)
  | cancelWhere (p : κ → Bool)
  | popDue (now : Instant)

/-- What is said of a change. -/
inductive Answer (κ : Type) where
  | done
  /-- An alarm was struck out, or there was none. -/
  | struck (existed : Bool)
  /-- The alarm that is served, if one is due. -/
  | served (kind : Option κ)

/-- One change to alarms. -/
def perform (a : Alarms κ) : Change κ → Answer κ × Alarms κ
  | .schedule kind deadline => (.done, a.schedule kind deadline)
  | .cancel kind => (.struck (a.cancels kind), a.cancel kind)
  | .cancelWhere p => (.done, a.cancelWhere p)
  | .popDue now =>
      match a.popDue now with
      | some (kind, others) => (.served (some kind), others)
      | none => (.served none, a)

/-- One more change, and what is said of all so far. -/
def serve (kept : List (Answer κ) × Alarms κ) (change : Change κ) : List (Answer κ) × Alarms κ :=
  (kept.1 ++ [(kept.2.perform change).1], (kept.2.perform change).2)

/-- What is said of some changes, and the alarms that are pending then. -/
def run (changes : List (Change κ)) : List (Answer κ) × Alarms κ :=
  changes.foldl serve ([], empty)

end Alarms

namespace Agenda

open Alarms (Change Answer)

variable [DecidableEq κ]

/-- The agenda with an appointment for a kind of alarm, instead of an earlier one. -/
def put (agenda : Agenda κ) (kind : κ) (appointment : Appointment) : Agenda κ := fun other =>
  if other = kind then some appointment else agenda other

/-- One change to an agenda, after a number of others. -/
inductive Performs (turn : Nat) (agenda : Agenda κ) : Change κ → Answer κ → Agenda κ → Prop
  | schedule (kind : κ) (deadline : Instant) :
      Performs turn agenda (.schedule kind deadline) .done (agenda.put kind ⟨deadline, turn⟩)
  | cancel (kind : κ) :
      Performs turn agenda (.cancel kind) (.struck (agenda kind).isSome)
        (agenda.without (· == kind))
  | cancelWhere (p : κ → Bool) : Performs turn agenda (.cancelWhere p) .done (agenda.without p)
  | serve {now : Instant} {kind : κ} (hfirst : agenda.First now kind) :
      Performs turn agenda (.popDue now) (.served (some kind)) (agenda.without (· == kind))
  | idle {now : Instant}
      (hlate : ∀ kind appointment, agenda kind = some appointment → now < appointment.deadline) :
      Performs turn agenda (.popDue now) (.served none) agenda

/-- Some changes to the blank agenda, what is said of them, and the agenda that they lead to. -/
inductive Runs : List (Change κ) → List (Answer κ) → Agenda κ → Prop
  | start : Runs [] [] blank
  | next {changes : List (Change κ)} {answers : List (Answer κ)} {agenda later : Agenda κ}
      {change : Change κ} {answer : Answer κ} (h : Runs changes answers agenda)
      (hstep : agenda.Performs changes.length change answer later) :
      Runs (changes ++ [change]) (answers ++ [answer]) later

end Agenda

namespace Alarms

variable {a others : Alarms κ} {agenda : Agenda κ} {kind : κ} {now : Instant} {turn : Nat}

/-- Of each kind there is one alarm at most. -/
theorem Single.eq_of_kind_eq (h : a.Single) {x y : Alarm κ} (hx : x ∈ a.entries)
    (hy : y ∈ a.entries) (hkind : x.kind = y.kind) : x = y := by
  have : Std.Symm fun x y : Alarm κ => x.kind ≠ y.kind := ⟨fun _ _ hdiffer => hdiffer.symm⟩
  exact Classical.byContradiction fun hne => List.Pairwise.forall h hx hy hne hkind

/-! ### Alarms that show an agenda -/

/-- A list of alarms shows an agenda. -/
structure Shows (a : Alarms κ) (agenda : Agenda κ) : Prop where
  /-- Of each kind there is one alarm at most. -/
  once : a.Single
  mem_iff : ∀ kind deadline,
    ⟨kind, deadline⟩ ∈ a.entries ↔ ∃ armed, agenda kind = some ⟨deadline, armed⟩
  /-- The alarms stand in the order of arming. -/
  ordered : a.entries.Pairwise fun x y => ∀ first second,
    agenda x.kind = some first → agenda y.kind = some second → first.armed < second.armed

theorem Shows.exists_appointment (h : a.Shows agenda) {alarm : Alarm κ}
    (hmem : alarm ∈ a.entries) : ∃ armed, agenda alarm.kind = some ⟨alarm.deadline, armed⟩ :=
  (h.mem_iff alarm.kind alarm.deadline).1 hmem

theorem Shows.mem_entries (h : a.Shows agenda) {appointment : Appointment}
    (hkind : agenda kind = some appointment) : ⟨kind, appointment.deadline⟩ ∈ a.entries :=
  (h.mem_iff kind appointment.deadline).2 ⟨appointment.armed, hkind⟩

/-- The next alarm is that of the earliest appointment. -/
theorem Shows.nextDeadline_eq_some_iff (h : a.Shows agenda) (deadline : Instant) :
    a.nextDeadline = some deadline ↔
      IsLeast {d | ∃ kind appointment, agenda kind = some appointment ∧ appointment.deadline = d}
        deadline := by
  have hset : ∀ d, d ∈ a.entries.map (·.deadline) ↔
      ∃ kind appointment, agenda kind = some appointment ∧ appointment.deadline = d := by
    intro d
    rw [List.mem_map]
    constructor
    · rintro ⟨alarm, hmem, rfl⟩
      obtain ⟨armed, hkind⟩ := h.exists_appointment hmem
      exact ⟨_, _, hkind, rfl⟩
    · rintro ⟨kind, appointment, hkind, rfl⟩
      exact ⟨_, h.mem_entries hkind, rfl⟩
  rw [nextDeadline, List.min?_eq_some_iff]
  refine and_congr (hset deadline) ?_
  exact ⟨fun hle d hd => hle d ((hset d).2 hd), fun hle d hd => hle ((hset d).1 hd)⟩

theorem shows_blank : (empty : Alarms κ).Shows Agenda.blank where
  once := single_empty
  mem_iff _ _ := by simp [empty, Agenda.blank]
  ordered := .nil

/-- To strike out alarms is to strike out their appointments. -/
theorem Shows.cancelWhere (h : a.Shows agenda) (p : κ → Bool) :
    (a.cancelWhere p).Shows (agenda.without p) where
  once := single_cancelWhere h.once p
  mem_iff kind deadline := by
    rw [Alarms.cancelWhere, List.mem_filter, h.mem_iff, Agenda.without]
    cases p kind <;> simp
  ordered := by
    refine (h.ordered.filter _).imp fun {x y} hxy first second hfirst hsecond => ?_
    exact hxy first second (Agenda.of_without hfirst) (Agenda.of_without hsecond)

/-! ### The alarm that is served -/

theorem deadline_earlier_le (first second : Alarm κ) :
    (earlier first second).deadline ≤ first.deadline ∧
      (earlier first second).deadline ≤ second.deadline := by
  rw [earlier]
  split
  · next hlater => exact ⟨Nat.le_of_lt hlater, Nat.le_refl _⟩
  · next hlater => exact ⟨Nat.le_refl _, Nat.not_lt.1 hlater⟩

/-- The alarm that is picked from some is one of the earliest. -/
theorem foldl_earlier_le (first : Alarm κ) (rest : List (Alarm κ)) :
    ∀ x ∈ first :: rest, (rest.foldl earlier first).deadline ≤ x.deadline := by
  induction rest generalizing first with
  | nil => simp
  | cons second rest ih =>
      have hhead := ih (earlier first second) _ (List.mem_cons_self ..)
      have hleast := deadline_earlier_le first second
      intro x hx
      rw [List.foldl_cons]
      rcases List.mem_cons.1 hx with rfl | hx
      · exact Nat.le_trans hhead hleast.1
      · rcases List.mem_cons.1 hx with rfl | hx
        · exact Nat.le_trans hhead hleast.2
        · exact ih _ x (List.mem_cons_of_mem _ hx)

/-- It is the first of them. -/
theorem find?_foldl_earlier (first : Alarm κ) (rest : List (Alarm κ)) :
    (first :: rest).find? (·.deadline ≤ (rest.foldl earlier first).deadline) =
      some (rest.foldl earlier first) := by
  induction rest generalizing first with
  | nil => simp
  | cons second rest ih =>
      have ih := ih (earlier first second)
      have hhead := foldl_earlier_le (earlier first second) rest _ (List.mem_cons_self ..)
      rw [List.foldl_cons]
      generalize rest.foldl earlier (earlier first second) = alarm at ih hhead ⊢
      by_cases hlater : second.deadline < first.deadline
      · -- the first alarm is passed over, since the second is earlier
        rw [earlier, if_pos hlater] at ih hhead
        have hpassed : ¬first.deadline ≤ alarm.deadline :=
          Nat.not_le.2 (Nat.lt_of_le_of_lt hhead hlater)
        rwa [List.find?_cons_of_neg (by simpa using hpassed)]
      · rw [earlier, if_neg hlater] at ih
        by_cases hfirst : first.deadline ≤ alarm.deadline
        · rwa [List.find?_cons_of_pos (by simpa using hfirst)] at ih ⊢
        · -- neither of the two is early enough
          rw [List.find?_cons_of_neg (by simpa using hfirst)] at ih ⊢
          have hsecond : ¬second.deadline ≤ alarm.deadline := fun hle =>
            hfirst (Nat.le_trans (Nat.not_lt.1 hlater) hle)
          rwa [List.find?_cons_of_neg (by simpa using hsecond)]

variable [DecidableEq κ]

/-- The alarm that is served is the first of the earliest among those that are due. -/
theorem exists_split_of_popDue (h : a.popDue now = some (kind, others)) :
    ∃ alarm before behind, alarm.kind = kind ∧ a.dueAt now = before ++ alarm :: behind ∧
      (∀ x ∈ before, alarm.deadline < x.deadline) ∧
      (∀ x ∈ behind, alarm.deadline ≤ x.deadline) ∧ others.entries = a.entries.erase alarm := by
  unfold popDue at h
  split at h
  · cases h
  · next first rest hdue =>
      obtain ⟨rfl, rfl⟩ := Prod.mk.inj (Option.some.inj h)
      obtain ⟨-, before, behind, hsplit, hbefore⟩ :=
        List.find?_eq_some_iff_append.1 (find?_foldl_earlier first rest)
      refine ⟨_, before, behind, rfl, hdue.trans hsplit, ?_, ?_, rfl⟩
      · intro x hx
        simpa using hbefore x hx
      · intro x hx
        refine foldl_earlier_le first rest x ?_
        rw [hsplit]
        exact List.mem_append_right _ (List.mem_cons_of_mem _ hx)

/-- To serve an alarm is to strike out its kind. -/
theorem eq_cancel_of_popDue (hsingle : a.Single) (h : a.popDue now = some (kind, others)) :
    others = a.cancel kind := by
  obtain ⟨alarm, hmem, rfl, -, hothers⟩ := exists_of_popDue h
  have hnodup : a.entries.Nodup := hsingle.imp fun hkind heq => hkind (congrArg Alarm.kind heq)
  obtain ⟨entries⟩ := others
  simp only [cancel, cancelWhere, Alarms.mk.injEq]
  rw [show entries = a.entries.erase alarm from hothers, hnodup.erase_eq_filter]
  refine List.filter_congr fun x hx => Bool.eq_iff_iff.2 ?_
  have hsame : x = alarm ↔ x.kind = alarm.kind :=
    ⟨congrArg Alarm.kind, hsingle.eq_of_kind_eq hx hmem⟩
  simp only [bne_iff_ne, ne_eq, hsame, Bool.not_eq_true', beq_eq_false_iff_ne]

/-! ### What can be told from the agenda -/

/-- What is armed is what has an appointment. -/
theorem Shows.isArmed_eq (h : a.Shows agenda) (kind : κ) :
    a.isArmed kind = (agenda kind).isSome := by
  rw [Bool.eq_iff_iff, isArmed_iff, Option.isSome_iff_exists]
  constructor
  · rintro ⟨alarm, hmem, rfl⟩
    obtain ⟨armed, hkind⟩ := h.exists_appointment hmem
    exact ⟨_, hkind⟩
  · rintro ⟨appointment, hkind⟩
    exact ⟨_, h.mem_entries hkind, rfl⟩

/-- An alarm goes off as agreed. -/
theorem Shows.deadlineOf_eq (h : a.Shows agenda) (kind : κ) :
    a.deadlineOf kind = (agenda kind).map (·.deadline) := by
  cases hfound : a.entries.find? (·.kind == kind) with
  | none =>
      rw [deadlineOf, hfound]
      cases hkind : agenda kind with
      | none => rfl
      | some appointment =>
          exact absurd (List.find?_eq_none.1 hfound _ (h.mem_entries hkind)) (by simp)
  | some alarm =>
      obtain rfl : alarm.kind = kind := by simpa using List.find?_some hfound
      obtain ⟨armed, hkind⟩ := h.exists_appointment (List.mem_of_find?_eq_some hfound)
      rw [deadlineOf, hfound, hkind]
      rfl

/-! ### Changes that are shown -/

theorem Shows.cancel (h : a.Shows agenda) (kind : κ) :
    (a.cancel kind).Shows (agenda.without (· == kind)) :=
  h.cancelWhere _

/-- To put an alarm behind all others is to make a new appointment. -/
theorem Shows.append (h : a.Shows agenda) (hfree : agenda kind = none)
    (hpast : ∀ other appointment, agenda other = some appointment → appointment.armed < turn)
    (deadline : Instant) :
    (⟨a.entries ++ [⟨kind, deadline⟩]⟩ : Alarms κ).Shows (agenda.put kind ⟨deadline, turn⟩) := by
  have hother : ∀ alarm ∈ a.entries, alarm.kind ≠ kind := by
    rintro alarm hmem rfl
    obtain ⟨armed, hkind⟩ := h.exists_appointment hmem
    rw [hfree] at hkind
    cases hkind
  refine ⟨List.pairwise_append.2 ⟨h.once, List.pairwise_singleton .., ?_⟩, ?_,
    List.pairwise_append.2 ⟨?_, List.pairwise_singleton .., ?_⟩⟩
  · intro x hx y hy
    rw [List.mem_singleton.1 hy]
    exact hother x hx
  · intro other d
    rw [List.mem_append, List.mem_singleton, Alarm.mk.injEq, Agenda.put]
    by_cases hsame : other = kind
    · have hnone : ⟨other, d⟩ ∉ a.entries := fun hmem => hother _ hmem hsame
      simp [hsame, hsame ▸ hnone, eq_comm]
    · simp [hsame, h.mem_iff]
  · refine h.ordered.imp_of_mem fun {x y} hx hy hxy first second hfirst hsecond => ?_
    rw [Agenda.put, if_neg (hother _ ‹_›)] at hfirst hsecond
    exact hxy first second hfirst hsecond
  · intro x hx y hy first second hfirst hsecond
    rw [Agenda.put, if_neg (hother x hx)] at hfirst
    rw [List.mem_singleton.1 hy, Agenda.put, if_pos rfl] at hsecond
    obtain rfl := Option.some.inj hsecond
    exact hpast x.kind first hfirst

/-- To arm an alarm is to make an appointment instead of an earlier one. -/
theorem Shows.schedule (h : a.Shows agenda)
    (hpast : ∀ other appointment, agenda other = some appointment → appointment.armed < turn)
    (kind : κ) (deadline : Instant) :
    (a.schedule kind deadline).Shows (agenda.put kind ⟨deadline, turn⟩) := by
  have hput : agenda.put kind ⟨deadline, turn⟩ =
      (agenda.without (· == kind)).put kind ⟨deadline, turn⟩ := by
    funext other
    by_cases hsame : other = kind <;> simp [Agenda.put, Agenda.without, hsame]
  rw [hput]
  exact (h.cancel kind).append (by simp [Agenda.without])
    (fun other appointment hother => hpast other appointment (Agenda.of_without hother)) _

/-- Striking out tells whether an alarm was pending. -/
theorem cancels_eq_isArmed (a : Alarms κ) (kind : κ) : a.cancels kind = a.isArmed kind := by
  rw [Bool.eq_iff_iff, cancels, bne_iff_ne, isArmed_iff]
  show (a.entries.filter (!·.kind == kind)).length ≠ a.entries.length ↔ _
  rw [ne_eq, List.length_filter_eq_length_iff]
  simp

/-- The alarm that is served is the one to be served first, and it is taken out. -/
theorem Shows.popDue (h : a.Shows agenda) (hpop : a.popDue now = some (kind, others)) :
    agenda.First now kind ∧ others.Shows (agenda.without (· == kind)) := by
  refine ⟨?_, eq_cancel_of_popDue h.once hpop ▸ h.cancel kind⟩
  obtain ⟨alarm, before, behind, rfl, hsplit, hbefore, hbehind, -⟩ := exists_split_of_popDue hpop
  have hdue : ∀ x, x ∈ before ++ alarm :: behind ↔ x ∈ a.entries ∧ x.deadline ≤ now := by
    intro x
    rw [← hsplit, dueAt, List.mem_filter, decide_eq_true_eq]
  have hordered := (h.ordered.filter fun x => decide (x.deadline ≤ now))
  rw [show a.entries.filter _ = before ++ alarm :: behind from hsplit] at hordered
  obtain ⟨hpending, hlate⟩ := (hdue alarm).1 (by simp)
  obtain ⟨armed, hkind⟩ := h.exists_appointment hpending
  refine ⟨_, hkind, hlate, fun other later hother hlater hduelater => ?_⟩
  have hmem := (hdue ⟨other, later.deadline⟩).2 ⟨h.mem_entries hlater, hduelater⟩
  rcases List.mem_append.1 hmem with hmem | hmem
  · exact .inl (hbefore _ hmem)
  · rcases List.mem_cons.1 hmem with hsame | hmem
    · exact absurd (congrArg Alarm.kind hsame) hother
    · rcases Nat.lt_or_eq_of_le (hbehind _ hmem) with hlt | heq
      · exact .inl hlt
      · have hafter := (List.pairwise_cons.1 (List.pairwise_append.1 hordered).2.1).1 _ hmem
        exact .inr ⟨heq, hafter _ _ hkind hlater⟩

/-- Nothing is served if nothing is due. -/
theorem Shows.popDue_none (h : a.Shows agenda) (hpop : a.popDue now = none) (kind : κ)
    (appointment : Appointment) (hkind : agenda kind = some appointment) :
    now < appointment.deadline :=
  popDue_eq_none_iff.1 hpop _ (h.mem_entries hkind)

/-- One change to alarms is one change to the agenda that they show. -/
theorem Shows.perform (h : a.Shows agenda)
    (hpast : ∀ other appointment, agenda other = some appointment → appointment.armed < turn)
    (change : Change κ) :
    ∃ later, Agenda.Performs turn agenda change (a.perform change).1 later ∧
      (a.perform change).2.Shows later := by
  cases change with
  | schedule kind deadline => exact ⟨_, .schedule kind deadline, h.schedule hpast kind deadline⟩
  | cancel kind =>
      refine ⟨_, ?_, h.cancel kind⟩
      rw [Alarms.perform, cancels_eq_isArmed, h.isArmed_eq]
      exact .cancel kind
  | cancelWhere p => exact ⟨_, .cancelWhere p, h.cancelWhere p⟩
  | popDue now =>
      rw [Alarms.perform]
      cases hpop : a.popDue now with
      | none => exact ⟨_, .idle (h.popDue_none hpop), h⟩
      | some served =>
          obtain ⟨hfirst, hothers⟩ := h.popDue hpop
          exact ⟨_, .serve hfirst, hothers⟩

end Alarms

/-! ### Any number of changes -/

theorem Appointment.Precedes.asymm {first second : Appointment} (h : first.Precedes second) :
    ¬second.Precedes first := by
  rintro (hlater | ⟨hsame, hbefore⟩)
  · rcases h with hlt | ⟨heq, -⟩
    · exact Nat.lt_asymm hlt hlater
    · exact Nat.ne_of_gt hlater heq
  · rcases h with hlt | ⟨-, hlt⟩
    · exact Nat.ne_of_gt hlt hsame
    · exact Nat.lt_asymm hlt hbefore

namespace Agenda

open Alarms (Change Answer)

variable {agenda later later' : Agenda κ} {kind other : κ} {now : Instant} {turn : Nat}
  {changes : List (Change κ)} {change : Change κ} {answers answers' : List (Answer κ)}
  {answer answer' : Answer κ} {appointment : Appointment}

/-- One alarm at most is to be served first. -/
theorem First.unique (h : agenda.First now kind) (hother : agenda.First now other) :
    kind = other := by
  obtain ⟨first, hfirst, hdue, hprecedes⟩ := h
  obtain ⟨second, hsecond, hdue', hprecedes'⟩ := hother
  refine Classical.byContradiction fun hne => ?_
  exact (hprecedes other second (Ne.symm hne) hsecond hdue').asymm
    (hprecedes' kind first hne hfirst hdue)

variable [DecidableEq κ]

/-- What a change comes to is certain. -/
theorem Performs.unique (h : Performs turn agenda change answer later)
    (h' : Performs turn agenda change answer' later') : answer = answer' ∧ later = later' := by
  cases h with
  | schedule | cancel | cancelWhere =>
      cases h'
      exact ⟨rfl, rfl⟩
  | serve hfirst =>
      cases h' with
      | serve hfirst' =>
          obtain rfl := hfirst.unique hfirst'
          exact ⟨rfl, rfl⟩
      | idle hlate =>
          obtain ⟨first, hkind, hdue, -⟩ := hfirst
          exact absurd hdue (Nat.not_le.2 (hlate _ _ hkind))
  | idle hlate =>
      cases h' with
      | serve hfirst =>
          obtain ⟨first, hkind, hdue, -⟩ := hfirst
          exact absurd hdue (Nat.not_le.2 (hlate _ _ hkind))
      | idle => exact ⟨rfl, rfl⟩

/-- A change arms alarms at its own turn only. -/
theorem Performs.armed_lt (h : Performs turn agenda change answer later)
    (hpast : ∀ other appointment, agenda other = some appointment → appointment.armed < turn)
    (hother : later other = some appointment) : appointment.armed < turn + 1 := by
  cases h with
  | schedule kind deadline =>
      rw [put] at hother
      split at hother
      · obtain rfl := Option.some.inj hother
        exact Nat.lt_succ_self turn
      · exact Nat.lt_succ_of_lt (hpast _ _ hother)
  | cancel | cancelWhere | serve => exact Nat.lt_succ_of_lt (hpast _ _ (of_without hother))
  | idle => exact Nat.lt_succ_of_lt (hpast _ _ hother)

/-- Whatever is pending was armed by one of the changes. -/
theorem Runs.armed_lt (h : Runs changes answers agenda) (hkind : agenda kind = some appointment) :
    appointment.armed < changes.length := by
  induction h generalizing kind appointment with
  | start => cases hkind
  | next h hstep ih =>
      rw [List.length_append]
      exact hstep.armed_lt (fun _ _ => ih) hkind

theorem Runs.eq_of_nil (h : Runs [] answers agenda) : answers = [] ∧ agenda = blank := by
  generalize hnone : ([] : List (Change κ)) = changes at h
  cases h with
  | start => exact ⟨rfl, rfl⟩
  | next => simp at hnone

/-- The last of some changes. -/
theorem Runs.exists_last (h : Runs (changes ++ [change]) answers later) :
    ∃ earlier answer agenda, answers = earlier ++ [answer] ∧ Runs changes earlier agenda ∧
      Performs changes.length agenda change answer later := by
  generalize hsome : changes ++ [change] = all at h
  cases h with
  | start => simp at hsome
  | next h hstep =>
      obtain ⟨rfl, hlast⟩ := List.append_inj' hsome rfl
      obtain rfl := List.singleton_inj.1 hlast
      exact ⟨_, _, _, rfl, h, hstep⟩

/-- What some changes come to is certain. -/
theorem Runs.unique (h : Runs changes answers agenda) (h' : Runs changes answers' later) :
    answers = answers' ∧ agenda = later := by
  induction h generalizing answers' later with
  | start =>
      obtain ⟨rfl, rfl⟩ := h'.eq_of_nil
      exact ⟨rfl, rfl⟩
  | next h hstep ih =>
      obtain ⟨earlier, answer, agenda, rfl, h', hstep'⟩ := h'.exists_last
      obtain ⟨rfl, rfl⟩ := ih h'
      obtain ⟨rfl, rfl⟩ := hstep.unique hstep'
      exact ⟨rfl, rfl⟩

end Agenda

namespace Alarms

variable [DecidableEq κ] {a others : Alarms κ} {agenda : Agenda κ} {kind : κ} {now : Instant}

/-- Whatever is done to alarms, they show the agenda to which the same is done. -/
theorem run_shows (changes : List (Change κ)) :
    ∃ agenda, Agenda.Runs changes (run changes).1 agenda ∧ (run changes).2.Shows agenda := by
  induction changes using List.reverseRecOn with
  | nil => exact ⟨_, .start, shows_blank⟩
  | append_singleton changes change ih =>
      obtain ⟨agenda, hruns, hshows⟩ := ih
      obtain ⟨later, hstep, hlater⟩ := hshows.perform (fun _ _ => hruns.armed_lt) change
      rw [run, List.foldl_append]
      exact ⟨later, hruns.next hstep, hlater⟩

/-! ### All that is due -/

/-- All alarms that are due are served, one after the other. -/
def serveAll (a : Alarms κ) (now : Instant) : List κ × Alarms κ :=
  match _ : a.popDue now with
  | none => ([], a)
  | some (kind, others) => (kind :: (others.serveAll now).1, (others.serveAll now).2)
termination_by (a.dueAt now).length
decreasing_by
  all_goals
    next h =>
      have := length_dueAt_of_popDue h
      omega

end Alarms

namespace Agenda

/-- Whether an alarm of a kind is due. -/
def isDue (agenda : Agenda κ) (now : Instant) (kind : κ) : Bool :=
  (agenda kind).any (·.deadline ≤ now)

theorem isDue_iff {agenda : Agenda κ} {now : Instant} {kind : κ} :
    agenda.isDue now kind = true ↔
      ∃ appointment, agenda kind = some appointment ∧ appointment.deadline ≤ now := by
  simp [isDue, Option.any_eq_true]

/-- Some kinds of alarms are all that are due, each of them once, in the order of their
appointments. -/
structure AllDue (agenda : Agenda κ) (now : Instant) (kinds : List κ) : Prop where
  nodup : kinds.Nodup
  mem_iff : ∀ kind, kind ∈ kinds ↔ agenda.isDue now kind = true
  ordered : kinds.Pairwise fun kind other => ∀ first second,
    agenda kind = some first → agenda other = some second → first.Precedes second

variable [DecidableEq κ] {agenda : Agenda κ} {now : Instant} {kind : κ}

/-- Without one kind, the others that are due are still due. -/
theorem isDue_without_iff {other : κ} :
    (agenda.without (· == kind)).isDue now other = true ↔
      other ≠ kind ∧ agenda.isDue now other = true := by
  by_cases hsame : other = kind <;> simp [isDue, without, hsame]

/-- An alarm that is to be served first comes before all others that are due. -/
theorem First.cons (h : agenda.First now kind) {kinds : List κ}
    (hrest : (agenda.without (· == kind)).AllDue now kinds) :
    agenda.AllDue now (kind :: kinds) := by
  obtain ⟨first, hfirst, hdue, hprecedes⟩ := h
  have hmem : ∀ other, other ∈ kinds ↔ other ≠ kind ∧ agenda.isDue now other = true :=
    fun other => (hrest.mem_iff other).trans isDue_without_iff
  refine ⟨List.nodup_cons.2 ⟨fun hkind => ((hmem kind).1 hkind).1 rfl, hrest.nodup⟩, ?_,
    List.pairwise_cons.2 ⟨?_, ?_⟩⟩
  · intro other
    rw [List.mem_cons, hmem]
    constructor
    · rintro (rfl | ⟨-, hother⟩)
      · exact isDue_iff.2 ⟨first, hfirst, hdue⟩
      · exact hother
    · intro hother
      by_cases hsame : other = kind
      · exact .inl hsame
      · exact .inr ⟨hsame, hother⟩
  · intro other hother s later hs hlater
    obtain rfl := Option.some.inj (hfirst.symm.trans hs)
    obtain ⟨hne, hduelater⟩ := (hmem other).1 hother
    obtain ⟨later', hlater', hlate⟩ := isDue_iff.1 hduelater
    obtain rfl := Option.some.inj (hlater.symm.trans hlater')
    exact hprecedes other later hne hlater hlate
  · refine hrest.ordered.imp_of_mem fun {x y} hx hy hxy s t hs ht => hxy s t ?_ ?_
    · simpa [without, ((hmem x).1 hx).1] using hs
    · simpa [without, ((hmem y).1 hy).1] using ht

/-- To take out what is due, one that is due can be taken out first. -/
theorem First.without_isDue (h : agenda.First now kind) :
    (agenda.without (· == kind)).without ((agenda.without (· == kind)).isDue now) =
      agenda.without (agenda.isDue now) := by
  obtain ⟨first, hfirst, hdue, -⟩ := h
  have hkind : agenda.isDue now kind = true := isDue_iff.2 ⟨first, hfirst, hdue⟩
  funext other
  by_cases hsame : other = kind
  · rw [hsame]
    simp [without, hkind]
  · have hother : agenda.without (· == kind) other = agenda other := by simp [without, hsame]
    have hisDue : (agenda.without (· == kind)).isDue now other = agenda.isDue now other := by
      rw [isDue, hother, isDue]
    show (if (agenda.without (· == kind)).isDue now other then none
      else agenda.without (· == kind) other) = if agenda.isDue now other then none else agenda other
    rw [hisDue, hother]

end Agenda

namespace Alarms

variable [DecidableEq κ] {a : Alarms κ} {agenda : Agenda κ}

/-- Every alarm that is due is served once, in order, and the others are left alone. -/
theorem Shows.serveAll (h : a.Shows agenda) (now : Instant) :
    agenda.AllDue now (a.serveAll now).1 ∧
      (a.serveAll now).2.Shows (agenda.without (agenda.isDue now)) := by
  fun_induction Alarms.serveAll a now generalizing agenda with
  | case1 a hpop =>
      have hnone : ∀ kind, agenda.isDue now kind = false := by
        intro kind
        rw [Bool.eq_false_iff, ne_eq, Agenda.isDue_iff]
        rintro ⟨appointment, hkind, hdue⟩
        exact Nat.not_le.2 (h.popDue_none hpop kind appointment hkind) hdue
      have hsame : agenda.without (agenda.isDue now) = agenda := by
        funext kind
        rw [Agenda.without, hnone, if_neg Bool.false_ne_true]
      exact ⟨⟨.nil, fun kind => by simp [hnone], .nil⟩, hsame.symm ▸ h⟩
  | case2 a kind others hpop ih =>
      obtain ⟨hfirst, hothers⟩ := h.popDue hpop
      obtain ⟨hall, hrest⟩ := ih hothers
      exact ⟨hfirst.cons hall, hfirst.without_isDue ▸ hrest⟩

/-- What can be told of alarms from the agenda that they show. -/
structure Mirrors (a : Alarms κ) (agenda : Agenda κ) : Prop extends a.Shows agenda where
  deadlineOf : ∀ kind, a.deadlineOf kind = (agenda kind).map (·.deadline)
  /-- The next alarm is that of the earliest appointment, if there is any. -/
  next : ∀ deadline, a.nextDeadline = some deadline ↔
    IsLeast {d | ∃ kind appointment, agenda kind = some appointment ∧ appointment.deadline = d}
      deadline
  /-- All alarms that are due can be served, each of them once and in order; the others stay. -/
  serveAll : ∀ now, agenda.AllDue now (a.serveAll now).1 ∧
    (a.serveAll now).2.Shows (agenda.without (agenda.isDue now))

/-- **What becomes of alarms.**  Whatever is done to alarms, the same can be done to an agenda in
one way only; what is said of each change is what the agenda has to say, and the alarms that are
left are those of the agenda that is left. -/
theorem run_mirrors (changes : List (Change κ)) :
    ∃ agenda, Agenda.Runs changes (run changes).1 agenda ∧
      (∀ answers other, Agenda.Runs changes answers other →
        answers = (run changes).1 ∧ other = agenda) ∧
      (run changes).2.Mirrors agenda := by
  obtain ⟨agenda, hruns, hshows⟩ := run_shows changes
  exact ⟨agenda, hruns, fun _ _ hother => hother.unique hruns,
    { hshows with
      deadlineOf := hshows.deadlineOf_eq
      next := hshows.nextDeadline_eq_some_iff
      serveAll := hshows.serveAll }⟩

end Alarms

end AudioLink
