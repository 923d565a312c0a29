/-
**Alarms.**

A link never waits.  It notes at what instant it has to be woken and for what, at most once for
each kind of alarm, and is woken then; an alarm is cancelled by striking it out.

* `AudioLink.Alarms` — the pending alarms, in the order in which they were armed;
* `AudioLink.Alarms.schedule`, `AudioLink.Alarms.cancel`, `AudioLink.Alarms.cancelWhere` — arming
  and striking out;
* `AudioLink.Alarms.cancels` — whether there is an alarm to strike out;
* `AudioLink.Alarms.popDue` — the alarm to be served first, if one is due;
* `AudioLink.AlarmKind` — the alarms of a link.
-/
import AudioLink.Time

set_option relaxedAutoImplicit false
set_option autoImplicit false

namespace AudioLink

/-- One pending alarm. -/
structure Alarm (κ : Type) where
  kind : κ
  deadline : Instant
  deriving DecidableEq, Repr

/-- The pending alarms, the one armed first in front. -/
structure Alarms (κ : Type) where
  entries : List (Alarm κ)
  deriving DecidableEq, Repr

namespace Alarms

variable {κ : Type} [DecidableEq κ]

/-- No alarms. -/
def empty : Alarms κ := ⟨[]⟩

instance : Inhabited (Alarms κ) := ⟨empty⟩

/-- The number of pending alarms. -/
def size (a : Alarms κ) : Nat := a.entries.length

/-- Whether nothing is pending. -/
def isEmpty (a : Alarms κ) : Bool := a.entries.isEmpty

/-- Whether an alarm of a kind is pending. -/
def isArmed (a : Alarms κ) (kind : κ) : Bool := a.entries.any (·.kind == kind)

/-- When the alarm of a kind goes off. -/
def deadlineOf (a : Alarms κ) (kind : κ) : Option Instant :=
  (a.entries.find? (·.kind == kind)).map (·.deadline)

/-- When the next alarm goes off. -/
def nextDeadline (a : Alarms κ) : Option Instant := (a.entries.map (·.deadline)).min?

/-- The alarms without those of some kinds. -/
def cancelWhere (a : Alarms κ) (p : κ → Bool) : Alarms κ := ⟨a.entries.filter (!p ·.kind)⟩

/-- The alarms without that of one kind. -/
def cancel (a : Alarms κ) (kind : κ) : Alarms κ := a.cancelWhere (· == kind)

/-- Whether there are fewer alarms without that of one kind. -/
def cancels (a : Alarms κ) (kind : κ) : Bool := (a.cancel kind).size != a.size

/-- An alarm is armed instead of an earlier one of its kind, and after all others. -/
def schedule (a : Alarms κ) (kind : κ) (deadline : Instant) : Alarms κ :=
  ⟨(a.cancel kind).entries ++ [⟨kind, deadline⟩]⟩

/-- The earlier of two alarms; of two at the same instant, the one armed first. -/
def earlier (first second : Alarm κ) : Alarm κ :=
  if second.deadline < first.deadline then second else first

/-- The alarms due at an instant, in the order of arming. -/
def dueAt (a : Alarms κ) (now : Instant) : List (Alarm κ) :=
  a.entries.filter (·.deadline ≤ now)

/-- The alarm to serve first at an instant, and the others. -/
def popDue (a : Alarms κ) (now : Instant) : Option (κ × Alarms κ) :=
  match a.dueAt now with
  | [] => none
  | first :: rest =>
      let alarm := rest.foldl earlier first
      some (alarm.kind, ⟨a.entries.erase alarm⟩)

/-! ### What is armed after a change -/

theorem isArmed_iff {a : Alarms κ} {kind : κ} :
    a.isArmed kind = true ↔ ∃ alarm ∈ a.entries, alarm.kind = kind := by
  simp [isArmed]

@[simp] theorem isArmed_cancelWhere (a : Alarms κ) (p : κ → Bool) (kind : κ) :
    (a.cancelWhere p).isArmed kind = (!p kind && a.isArmed kind) := by
  rw [Bool.eq_iff_iff]
  simp only [cancelWhere, isArmed_iff, List.mem_filter, Bool.not_eq_eq_eq_not, Bool.not_true,
    Bool.and_eq_true]
  constructor
  · rintro ⟨alarm, ⟨mem, keep⟩, rfl⟩
    exact ⟨keep, alarm, mem, rfl⟩
  · rintro ⟨keep, alarm, mem, rfl⟩
    exact ⟨alarm, ⟨mem, keep⟩, rfl⟩

@[simp] theorem isArmed_cancel (a : Alarms κ) (gone kind : κ) :
    (a.cancel gone).isArmed kind = (kind != gone && a.isArmed kind) := by
  simp [cancel, bne]

@[simp] theorem isArmed_schedule (a : Alarms κ) (armed : κ) (deadline : Instant) (kind : κ) :
    (a.schedule armed deadline).isArmed kind = (kind == armed || a.isArmed kind) := by
  have kept := isArmed_cancel a armed kind
  unfold isArmed at kept ⊢
  simp only [schedule, List.any_append, kept, List.any_cons, List.any_nil, Bool.or_false]
  by_cases h : kind = armed
  · simp [h]
  · have h' : armed ≠ kind := fun e => h e.symm
    simp [bne, beq_eq_false_iff_ne.2 h, beq_eq_false_iff_ne.2 h']

/-- Nothing is popped exactly when nothing is due. -/
theorem popDue_eq_none_iff {a : Alarms κ} {now : Instant} :
    a.popDue now = none ↔ ∀ alarm ∈ a.entries, now < alarm.deadline := by
  unfold popDue
  split
  · next h => simpa [dueAt, List.filter_eq_nil_iff] using h
  · next first rest h =>
      have mem : first ∈ a.dueAt now := by simp [h]
      simp only [dueAt, List.mem_filter, decide_eq_true_eq] at mem
      simp only [reduceCtorEq, false_iff]
      intro late
      exact absurd (late first mem.1) (Nat.not_lt.2 mem.2)

end Alarms

/-! ### The alarms of a link -/

/-- The alarms common to all links, and those of its profile. -/
inductive AlarmKind (τ : Type) where
  /-- The bound on connecting. -/
  | connect
  /-- The bound on disconnecting. -/
  | disconnect
  /-- An alarm of the profile. -/
  | session (kind : τ)
  deriving DecidableEq, Repr

namespace AlarmKind

/-- Whether an alarm belongs to the profile. -/
def isSession {τ : Type} : AlarmKind τ → Bool
  | session _ => true
  | connect | disconnect => false

end AlarmKind

end AudioLink
