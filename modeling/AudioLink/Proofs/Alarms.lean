/-
**What is armed.**

No alarm is pending twice: one that is armed again takes the place of the earlier one.  An alarm
that is served is taken out, and no other is touched.

Main definitions:

* `AudioLink.Alarms.Single` — no kind of alarm is pending twice;
* `AudioLink.Alarms.OwnAt` — the alarms of the link itself go off at one instant;
* `AudioLink.Alarms.Spares` — a profile has left the alarms of the link alone.

Main results:

* `AudioLink.Alarms.single_schedule`, `AudioLink.Alarms.single_cancelWhere` — arming and striking
  out keep alarms single;
* `AudioLink.Alarms.exists_of_popDue` — the alarm that is served was pending and due;
* `AudioLink.Alarms.isArmed_of_popDue`, `AudioLink.Alarms.length_dueAt_of_popDue` — serving an alarm
  touches no other kind, and leaves one less that is due;
* `AudioLink.Alarms.length_dueAt_cancelWhere_le`, `AudioLink.Alarms.length_dueAt_schedule_le` —
  striking out alarms, and arming one for later, makes none due;
* `AudioLink.Alarms.OwnAt.deadlineOf_eq`, `AudioLink.Alarms.OwnAt.popDue_ne_none` — when an alarm of
  the link goes off.
-/

import AudioLink.Alarms

set_option relaxedAutoImplicit false
set_option autoImplicit false

namespace AudioLink

namespace Alarms

variable {κ : Type} {a : Alarms κ}

/-! ### Single alarms -/

/-- No kind of alarm is pending twice. -/
def Single (a : Alarms κ) : Prop := a.entries.Pairwise fun x y => x.kind ≠ y.kind

theorem single_empty : (empty : Alarms κ).Single := .nil

theorem single_cancelWhere (h : a.Single) (p : κ → Bool) : (a.cancelWhere p).Single :=
  h.filter _

variable [DecidableEq κ]

theorem single_cancel (h : a.Single) (kind : κ) : (a.cancel kind).Single :=
  single_cancelWhere h _

theorem single_schedule (h : a.Single) (kind : κ) (deadline : Instant) :
    (a.schedule kind deadline).Single := by
  refine List.pairwise_append.2 ⟨single_cancel h kind, List.pairwise_singleton .., ?_⟩
  intro x hx y hy heq
  obtain rfl := List.mem_singleton.1 hy
  have hkept : (!(x.kind == kind)) = true := (List.mem_filter.1 hx).2
  rw [show x.kind = kind from heq, beq_self_eq_true] at hkept
  cases hkept

/-! ### Serving an alarm -/

omit [DecidableEq κ] in
theorem mem_foldl_earlier (first : Alarm κ) (rest : List (Alarm κ)) :
    rest.foldl earlier first ∈ first :: rest := by
  induction rest generalizing first with
  | nil => exact List.mem_cons_self ..
  | cons second rest ih =>
      have hmem := ih (earlier first second)
      rw [List.foldl_cons]
      rcases List.mem_cons.1 hmem with hmem | hmem
      · rw [hmem, earlier]
        split
        · exact List.mem_cons_of_mem _ (List.mem_cons_self ..)
        · exact List.mem_cons_self ..
      · exact List.mem_cons_of_mem _ (List.mem_cons_of_mem _ hmem)

/-- The alarm that is served was pending and due, and is taken out. -/
theorem exists_of_popDue {now : Instant} {kind : κ} {others : Alarms κ}
    (h : a.popDue now = some (kind, others)) :
    ∃ alarm ∈ a.entries, alarm.kind = kind ∧ alarm.deadline ≤ now ∧
      others.entries = a.entries.erase alarm := by
  unfold popDue at h
  split at h
  · cases h
  · next first rest hdue =>
      obtain ⟨rfl, rfl⟩ := Prod.mk.inj (Option.some.inj h)
      have hmem : rest.foldl earlier first ∈ a.dueAt now := by
        rw [hdue]
        exact mem_foldl_earlier first rest
      obtain ⟨hpending, hlate⟩ := List.mem_filter.1 hmem
      exact ⟨_, hpending, rfl, of_decide_eq_true hlate, rfl⟩

/-- Serving an alarm touches no other kind. -/
theorem isArmed_of_popDue {now : Instant} {kind : κ} {others : Alarms κ}
    (h : a.popDue now = some (kind, others)) {other : κ} (hne : other ≠ kind) :
    others.isArmed other = a.isArmed other := by
  obtain ⟨alarm, -, rfl, -, hothers⟩ := exists_of_popDue h
  rw [Bool.eq_iff_iff, isArmed_iff, isArmed_iff, hothers]
  constructor
  · rintro ⟨x, hx, rfl⟩
    exact ⟨x, List.mem_of_mem_erase hx, rfl⟩
  · rintro ⟨x, hx, rfl⟩
    have hneq : x ≠ alarm := fun heq => hne (congrArg Alarm.kind heq)
    exact ⟨x, (List.mem_erase_of_ne hneq).2 hx, rfl⟩

/-- Serving an alarm arms nothing. -/
theorem isArmed_le_of_popDue {now : Instant} {kind : κ} {others : Alarms κ}
    (h : a.popDue now = some (kind, others)) {other : κ} (harmed : others.isArmed other = true) :
    a.isArmed other = true := by
  obtain ⟨alarm, -, -, -, hothers⟩ := exists_of_popDue h
  obtain ⟨x, hx, hkind⟩ := isArmed_iff.1 harmed
  rw [hothers] at hx
  exact isArmed_iff.2 ⟨x, List.mem_of_mem_erase hx, hkind⟩

/-- With an alarm served, one alarm less is due. -/
theorem length_dueAt_of_popDue {now : Instant} {kind : κ} {others : Alarms κ}
    (h : a.popDue now = some (kind, others)) :
    (others.dueAt now).length + 1 = (a.dueAt now).length := by
  obtain ⟨alarm, hmem, -, hlate, hothers⟩ := exists_of_popDue h
  have hperm : (a.dueAt now).Perm ((alarm :: others.entries).filter (·.deadline ≤ now)) := by
    rw [hothers]
    exact (List.perm_cons_erase hmem).filter _
  rw [hperm.length_eq]
  simp [hlate, dueAt]

/-- When none is due, the next alarm goes off later. -/
theorem lt_nextDeadline {now deadline : Instant} (hnone : a.popDue now = none)
    (hnext : a.nextDeadline = some deadline) : now < deadline := by
  obtain ⟨alarm, hmem, rfl⟩ := List.mem_map.1 (List.min?_mem hnext)
  exact popDue_eq_none_iff.1 hnone alarm hmem

omit [DecidableEq κ] in
/-- Striking out alarms makes none due. -/
theorem length_dueAt_cancelWhere_le (a : Alarms κ) (p : κ → Bool) (now : Instant) :
    ((a.cancelWhere p).dueAt now).length ≤ (a.dueAt now).length :=
  (List.filter_sublist.filter _).length_le

/-- Nor does arming one for later. -/
theorem length_dueAt_schedule_le (a : Alarms κ) (kind : κ) {deadline now : Instant}
    (hlater : now < deadline) :
    ((a.schedule kind deadline).dueAt now).length ≤ (a.dueAt now).length := by
  have hnone : [(⟨kind, deadline⟩ : Alarm κ)].filter (·.deadline ≤ now) = [] := by
    simpa using hlater
  rw [dueAt, schedule, List.filter_append, hnone, List.append_nil]
  exact length_dueAt_cancelWhere_le a _ now

theorem single_of_popDue {now : Instant} {kind : κ} {others : Alarms κ} (hsingle : a.Single)
    (h : a.popDue now = some (kind, others)) : others.Single := by
  obtain ⟨alarm, -, -, -, hothers⟩ := exists_of_popDue h
  rw [Single, hothers]
  exact hsingle.sublist (List.erase_sublist ..)

end Alarms

/-! ### Alarms of the link and of the profile -/

/-- Whatever alarm of its own a link has armed, it goes off at one instant. -/
def Alarms.OwnAt {τ : Type} (alarms : Alarms (AlarmKind τ)) (deadline : Instant) : Prop :=
  ∀ alarm ∈ alarms.entries, alarm.kind.isSession = false → alarm.deadline = deadline

namespace Alarms.OwnAt

variable {τ : Type} [DecidableEq τ] {alarms : Alarms (AlarmKind τ)} {deadline : Instant}

omit [DecidableEq τ] in
/-- To strike out alarms, or to serve one, changes nothing about the others. -/
theorem of_subset (h : alarms.OwnAt deadline) {fewer : Alarms (AlarmKind τ)}
    (hfewer : fewer.entries ⊆ alarms.entries) : fewer.OwnAt deadline :=
  fun alarm hmem hown => h alarm (hfewer hmem) hown

theorem cancel (h : alarms.OwnAt deadline) (kind : AlarmKind τ) :
    (alarms.cancel kind).OwnAt deadline :=
  h.of_subset List.filter_sublist.subset

theorem popDue (h : alarms.OwnAt deadline) {now : Instant} {kind : AlarmKind τ}
    {others : Alarms (AlarmKind τ)} (hpop : alarms.popDue now = some (kind, others)) :
    others.OwnAt deadline := by
  obtain ⟨alarm, -, -, -, hothers⟩ := exists_of_popDue hpop
  refine h.of_subset ?_
  rw [hothers]
  exact (List.erase_sublist ..).subset

/-- A profile may arm its own alarms. -/
theorem schedule_session (h : alarms.OwnAt deadline) (kind : τ) (other : Instant) :
    (alarms.schedule (.session kind) other).OwnAt deadline := by
  intro alarm hmem hown
  rcases List.mem_append.1 hmem with hmem | hmem
  · exact h.cancel _ alarm hmem hown
  · rw [List.mem_singleton.1 hmem] at hown
    cases hown

/-- A link may arm another alarm of its own to go off at the same instant. -/
theorem schedule (h : alarms.OwnAt deadline) (kind : AlarmKind τ) :
    (alarms.schedule kind deadline).OwnAt deadline := by
  intro alarm hmem hown
  rcases List.mem_append.1 hmem with hmem | hmem
  · exact h.cancel _ alarm hmem hown
  · rw [List.mem_singleton.1 hmem]

/-- Nothing is said of a link that has no alarm of its own armed. -/
theorem of_unarmed (hconnect : alarms.isArmed .connect = false)
    (hdisconnect : alarms.isArmed .disconnect = false) (deadline : Instant) :
    alarms.OwnAt deadline := by
  intro alarm hmem hown
  have harmed : alarms.isArmed alarm.kind = true := isArmed_iff.2 ⟨alarm, hmem, rfl⟩
  cases hkind : alarm.kind with
  | connect =>
      rw [hkind, hconnect] at harmed
      cases harmed
  | disconnect =>
      rw [hkind, hdisconnect] at harmed
      cases harmed
  | session kind =>
      rw [hkind] at hown
      cases hown

/-- An alarm that is armed goes off at that instant. -/
theorem deadlineOf_eq (h : alarms.OwnAt deadline) {kind : AlarmKind τ}
    (hown : kind.isSession = false) (harmed : alarms.isArmed kind = true) :
    alarms.deadlineOf kind = some deadline := by
  obtain ⟨alarm, hmem, hkind⟩ := isArmed_iff.1 harmed
  cases hfound : alarms.entries.find? (·.kind == kind) with
  | none => exact absurd (List.find?_eq_none.1 hfound alarm hmem) (by simp [hkind])
  | some first =>
      have hfirst : first.kind = kind := by simpa using List.find?_some hfound
      rw [deadlineOf, hfound, Option.map_some, Option.some_inj]
      exact h first (List.mem_of_find?_eq_some hfound) (hfirst ▸ hown)

/-- An alarm that is armed is due once that instant has come. -/
theorem popDue_ne_none (h : alarms.OwnAt deadline) {kind : AlarmKind τ}
    (hown : kind.isSession = false) (harmed : alarms.isArmed kind = true) {now : Instant}
    (hlate : deadline ≤ now) : alarms.popDue now ≠ none := by
  obtain ⟨alarm, hmem, hkind⟩ := isArmed_iff.1 harmed
  have hdeadline : alarm.deadline = deadline := h alarm hmem (hkind ▸ hown)
  intro hnone
  have hearly : now < alarm.deadline := popDue_eq_none_iff.1 hnone alarm hmem
  rw [hdeadline] at hearly
  exact absurd hlate (Nat.not_le.2 hearly)

end Alarms.OwnAt

/-- Between two moments the alarms of the link were left alone, and none came to be pending
twice. -/
structure Alarms.Spares {τ : Type} [DecidableEq τ] (before after : Alarms (AlarmKind τ)) :
    Prop where
  single : before.Single → after.Single
  isArmed : ∀ kind : AlarmKind τ, kind.isSession = false →
    after.isArmed kind = before.isArmed kind

namespace Alarms.Spares

variable {τ : Type} [DecidableEq τ] {before after last : Alarms (AlarmKind τ)}

theorem refl (a : Alarms (AlarmKind τ)) : a.Spares a := ⟨id, fun _ _ => rfl⟩

/-- A profile may arm its own alarms. -/
theorem schedule (h : before.Spares after) (kind : τ) (deadline : Instant) :
    before.Spares (after.schedule (.session kind) deadline) := by
  refine ⟨fun hsingle => single_schedule (h.single hsingle) _ _, ?_⟩
  intro other hother
  have hne : other ≠ .session kind := by
    rintro rfl
    cases hother
  rw [isArmed_schedule, beq_eq_false_iff_ne.2 hne, Bool.false_or]
  exact h.isArmed other hother

/-- A profile may strike out its own alarms. -/
theorem cancel (h : before.Spares after) (kind : τ) :
    before.Spares (after.cancel (.session kind)) := by
  refine ⟨fun hsingle => single_cancel (h.single hsingle) _, ?_⟩
  intro other hother
  have hne : other ≠ .session kind := by
    rintro rfl
    cases hother
  rw [isArmed_cancel, bne_iff_ne.2 hne, Bool.true_and]
  exact h.isArmed other hother

end Alarms.Spares

end AudioLink
