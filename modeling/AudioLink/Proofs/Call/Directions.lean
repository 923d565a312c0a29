/-
**Who called whom.**

A report says who placed the call.  When a pass brings the roster in line with the reports, number
and state of a call become those of its report, but the direction does not: a call that goes on
keeps the one it was first known with.  It goes on under the number it has had, which the gateway
may have given to another call since, and the call dialled here goes on under the first new number,
whoever placed the call that is listed there.  So the roster tells the direction of the report
unless one of these calls was placed from the other side.

Main definitions:

* `AudioLink.Survey.IsFirstNew` — the new number under which the call dialled here goes on;
* `AudioLink.Survey.forerunner` — the call that goes on under a number.

Main results:

* `AudioLink.Survey.direction_identify` — a listed call has the direction of the call that goes
  on, and only without one that of its report;
* `AudioLink.Survey.direction_reported_iff` — **after a pass every reported call is there, and its
  direction is the reported one unless a call goes on that was placed from the other side**.
-/

import AudioLink.Proofs.Call.Conference

set_option relaxedAutoImplicit false
set_option autoImplicit false

namespace AudioLink

namespace Survey

variable {issuer : Nat} {patience : Duration} {s : Survey} {heard : List Call}

/-! ### The call that goes on -/

/-- A number is the first of the new ones. -/
def IsFirstNew (s : Survey) (heard : List Call) (n : Nat) : Prop :=
  IsNew s heard n ∧ ∀ m, IsNew s heard m → n ≤ m

/-- The call that goes on under a number: the known one of that number, or else, under the first
new number, the one dialled here. -/
def forerunner (s : Survey) (n : Nat) : Option Call :=
  (s.roster.get? (.peer n)).or (if s.added.head? = some n then s.dialled else none)

/-- The call that stands for a report is the one that goes on, brought up to date, or else the
report itself. -/
theorem identify_eq {report : Call} {n : Nat} (hindex : report.index = .peer n) :
    s.identify report = match s.forerunner n with
      | some call => { call.absorb report with index := report.index }
      | none => report := by
  have hfirst : s.added.head?.map CallIndex.peer = some report.index ↔
      s.added.head? = some n := by
    rw [hindex, Option.map_eq_some_iff]
    exact ⟨fun ⟨m, hm, hpeer⟩ => CallIndex.peer.inj hpeer ▸ hm, fun hm => ⟨n, hm, rfl⟩⟩
  unfold identify forerunner
  rw [hindex]
  cases hknown : s.roster.get? (.peer n) with
  | some known =>
      have hsame : known.index = .peer n := Roster.index_of_get? hknown
      cases known
      cases hsame
      rfl
  | none =>
      cases s.dialled with
      | none => simp
      | some call =>
          rw [hindex] at hfirst
          by_cases hhead : s.added.head? = some n
          · simp [hhead]
          · simp [hhead, mt hfirst.1 hhead]

/-- A call that stands for a report has the direction of the call that goes on, and only without
one that of the report. -/
theorem direction_identify {report : Call} {n : Nat} (hindex : report.index = .peer n) :
    (s.identify report).direction = ((s.forerunner n).getD report).direction := by
  rw [identify_eq hindex]
  cases s.forerunner n with
  | none => rfl
  | some call => rfl

/-- The call that goes on is the known one of the number, or the one dialled here if the number is
the first of the new ones. -/
theorem forerunner_eq_some_iff (h : Tidy patience s heard) {n : Nat} {call : Call} :
    s.forerunner n = some call ↔
      s.roster.get? (.peer n) = some call ∨ IsFirstNew s heard n ∧ s.dialled = some call := by
  have hhead : s.added.head? = some n ↔ IsFirstNew s heard n := head?_added_eq_some_iff h
  unfold forerunner
  cases hknown : s.roster.get? (.peer n) with
  | some known =>
      have hold : ¬IsFirstNew s heard n := fun hnew => by simp [hnew.1.2] at hknown
      simp [hold]
  | none =>
      by_cases hfirst : s.added.head? = some n
      · simp [hfirst, hhead.1 hfirst]
      · simp [hfirst, mt hhead.2 hfirst]

/-! ### After a pass -/

/-- A reported call is in the roster after an ordinary pass, with the direction of the call that
goes on. -/
theorem exists_direction (h : Tidy patience s heard) {n : Nat} {report : Call}
    (hreport : latest heard n = some report) :
    ∃ call, s.reconciled.get? (.peer n) = some call ∧
      call.direction = ((s.forerunner n).getD report).direction := by
  have hburst : s.burst.get? (.peer n) = some report := (h.burst_peer n).trans hreport
  refine ⟨_, by rw [get?_reconciled, hburst]; rfl, ?_⟩
  exact direction_identify (Roster.index_of_get? hburst)

/-- A pass that does not give up brings the roster in line with the reports. -/
theorem roster_complete {now : Instant} (hgoing : (s.complete now).1.stuck = none) :
    (s.complete now).2.roster = s.reconciled := by
  cases hstuck : s.stuckAge now with
  | none => rw [complete_eq hstuck]
  | some age => simp [complete_eq_of_stuck hstuck] at hgoing

/-- **Whose direction is told.**  After a pass that does not give up, every call that was reported
is in the roster.  It has the direction last reported for it exactly when the call that was known
under its number has that direction too, and, under the first new number, when no call was dialled
here or the report is one of a call placed from here. -/
theorem direction_reported_iff (h : Arises issuer patience s heard) (now : Instant)
    (hgoing : (s.complete now).1.stuck = none) {n : Nat} {report : Call}
    (hreport : latest heard n = some report) :
    ∃ call, (s.complete now).2.roster.get? (.peer n) = some call ∧
      (call.direction = report.direction ↔
        (∀ known, s.roster.get? (.peer n) = some known → known.direction = report.direction) ∧
        (IsFirstNew s heard n → s.dialled ≠ none → report.direction = .outgoing)) := by
  obtain ⟨call, hcall, hdirection⟩ := exists_direction h.tidy hreport
  refine ⟨call, by rw [roster_complete hgoing, hcall], ?_⟩
  rw [hdirection]
  have hforerunner : ∀ {c}, s.forerunner n = some c ↔
      s.roster.get? (.peer n) = some c ∨ IsFirstNew s heard n ∧ s.dialled = some c :=
    forerunner_eq_some_iff h.tidy
  cases hgoes : s.forerunner n with
  | none =>
      -- neither a known call nor the one dialled here goes on
      have hnone : ∀ c, ¬(s.roster.get? (.peer n) = some c ∨
          IsFirstNew s heard n ∧ s.dialled = some c) := by
        intro c hc
        rw [hforerunner.2 hc] at hgoes
        cases hgoes
      refine iff_of_true rfl ⟨fun known hknown => ?_, fun hfirst hdialled => ?_⟩
      · exact absurd (.inl hknown) (hnone known)
      · obtain ⟨c, hc⟩ := Option.ne_none_iff_exists'.1 hdialled
        exact absurd (.inr ⟨hfirst, hc⟩) (hnone c)
  | some c =>
      rcases hforerunner.1 hgoes with hknown | ⟨hfirst, hdialled⟩
      · have hold : ¬IsFirstNew s heard n := fun hnew => by simp [hnew.1.2] at hknown
        simp [hknown, hold]
      · obtain ⟨handle, number, dialledAt, rfl⟩ := h.exists_outgoing hdialled
        simp [hfirst.1.2, hfirst, hdialled, Call.outgoing, eq_comm]

/-- The gateway lists the held call again, as one that it placed, and another one of its own, while
a call is being dialled here: the first is told with its direction, the second is not. -/
theorem direction_reported_iff_dialling :
    let s := (dialling.record ⟨1, .incoming, .held, false, "1"⟩ 3).record
      ⟨2, .incoming, .waiting, false, "2"⟩ 3
    let heard := [.reported ⟨7, 2⟩ ⟨1, .incoming, .held, false, "1"⟩ 3,
      .reported ⟨7, 3⟩ ⟨2, .incoming, .waiting, false, "2"⟩ 3]
    (∃ call, (s.complete 4).2.roster.get? (.peer 1) = some call ∧
      (call.direction = .incoming ↔
        (∀ known, s.roster.get? (.peer 1) = some known → known.direction = .incoming) ∧
        (IsFirstNew s heard 1 → s.dialled ≠ none → CallDirection.incoming = .outgoing))) ∧
    ∃ call, (s.complete 4).2.roster.get? (.peer 2) = some call ∧
      (call.direction = .incoming ↔
        (∀ known, s.roster.get? (.peer 2) = some known → known.direction = .incoming) ∧
        (IsFirstNew s heard 2 → s.dialled ≠ none → CallDirection.incoming = .outgoing)) := by
  have h := Arises.record ⟨2, .incoming, .waiting, false, "2"⟩ 3
    (.record ⟨1, .incoming, .held, false, "1"⟩ 3 arises_dialling)
  constructor
  · exact direction_reported_iff h 4 (by decide) (n := 1) rfl
  · exact direction_reported_iff h 4 (by decide) (n := 2) rfl

/-- Not every pass tells the directions that were reported: a call is dialled here, another one
comes in and is all that the gateway lists, and it is then told as one placed from here. -/
theorem direction_mistaken :
    ¬∀ issuer patience s heard, Arises issuer patience s heard → ∀ now,
      (s.complete now).1.stuck = none → ∀ n report, latest heard n = some report →
        ∃ call, (s.complete now).2.roster.get? (.peer n) = some call ∧
          call.direction = report.direction := by
  intro hall
  have hdialled : Arises 7 10 _ [] := .dial .start (rfl : (start 7 10).dial "555" 0 = .ok _)
  have harises := hdialled.record ⟨1, .incoming, .incoming, false, "777"⟩ 0
  obtain ⟨call, hcall, hdirection⟩ := hall _ _ _ _ harises 0 (by decide) 1 _ rfl
  have houtgoing : call.direction = .outgoing := by
    cases hcall
    rfl
  rw [houtgoing] at hdirection
  cases hdirection

end Survey

end AudioLink
