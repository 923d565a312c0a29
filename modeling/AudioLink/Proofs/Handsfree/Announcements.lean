/-
**The calls that a link announces.**

Calls come and go in many ways: one is dialled, refused, or never listed; a pass finds calls gone,
new or changed; with the link all of them are gone.  Each way has announcements of its own.  All of
them together are faithful throughout the life of a link: whoever notes the announced calls under
their handles knows the calls of the roster, and hears nothing twice.

Main definitions:

* `AudioLink.Handsfree.changes` — the calls that were announced, in order;
* `AudioLink.Handsfree.Tells` — what was announced is faithful to the roster.

Main results:

* `AudioLink.Handsfree.lasting_tells` — no errand makes the announcements unfaithful;
* `AudioLink.Handsfree.announcements_faithful` — **the announced calls show the roster, and no
  announcement is repeated, throughout the life of a link**.
-/

import AudioLink.Proofs.Call.Board
import AudioLink.Proofs.Handsfree.Acts
import AudioLink.Proofs.Link.Lasting

set_option relaxedAutoImplicit false
set_option autoImplicit false

namespace AudioLink.Handsfree

/-! ### What was announced -/

/-- The call that an effect announces, if it announces one. -/
def announced? : Effect → Option Call
  | .notice (.report (.callChanged call)) => some call
  | _ => none

/-- The calls that were announced, in order. -/
def changes (log : List Effect) : List Call := log.filterMap announced?

theorem changes_append (log log' : List Effect) :
    changes (log ++ log') = changes log ++ changes log' :=
  List.filterMap_append

/-- An effect that announces no call adds nothing. -/
theorem changes_snoc {effect : Effect} (h : announced? effect = none) (log : List Effect) :
    changes (log ++ [effect]) = changes log := by
  rw [changes_append, changes, changes, List.filterMap_cons, h]
  exact List.append_nil _

theorem changes_announcements (log : List Effect) (calls : List Call) :
    changes (log ++ calls.map announcement) = changes log ++ calls := by
  have hcalls : changes (calls.map announcement) = calls := by
    induction calls with
    | nil => rfl
    | cons call rest ih => exact congrArg (call :: ·) ih
  rw [changes_append, hcalls]

/-! ### Faithful announcements -/

variable {issuer : Nat} {patience : Duration}

/-- The survey can arise, and what was announced is faithful to it. -/
def Tells (issuer : Nat) (patience : Duration) (s : Handsfree) (log : List Effect) : Prop :=
  (∃ heard, Survey.Arises issuer patience s.survey heard) ∧
    Survey.Faithful (changes log) s.survey

section Tells

variable {s next : Handsfree} {log : List Effect}

/-- Only the survey and the announced calls matter. -/
theorem Tells.of_eq {log' : List Effect} (h : Tells issuer patience s log)
    (hsurvey : next.survey = s.survey) (hlog : changes log' = changes log) :
    Tells issuer patience next log' := by
  rw [Tells, hsurvey, hlog]
  exact h

theorem Tells.begin (h : Tells issuer patience s log) (hsurvey : next.survey = s.survey.begin) :
    Tells issuer patience next log := by
  obtain ⟨⟨heard, harises⟩, hfaithful⟩ := h
  rw [Tells, hsurvey]
  exact ⟨⟨_, harises.begin⟩, hfaithful.of_roster_eq (Survey.roster_begin _)⟩

theorem Tells.record (h : Tells issuer patience s log) {report : CallReport} {now : Instant}
    (hsurvey : next.survey = s.survey.record report now) : Tells issuer patience next log := by
  obtain ⟨⟨heard, harises⟩, hfaithful⟩ := h
  rw [Tells, hsurvey]
  exact ⟨⟨_, harises.record report now⟩, hfaithful.of_roster_eq (Survey.roster_record _ _ _)⟩

theorem Tells.dial (h : Tells issuer patience s log) {number : String} {now : Instant} {call : Call}
    (hdial : s.survey.dial number now = .ok (call, next.survey)) :
    Tells issuer patience next (log ++ [call].map announcement) := by
  obtain ⟨⟨heard, harises⟩, hfaithful⟩ := h
  rw [Tells, changes_announcements]
  exact ⟨⟨_, harises.dial hdial⟩, hfaithful.dial harises.separate hdial⟩

theorem Tells.abandon (h : Tells issuer patience s log)
    (hsurvey : next.survey = s.survey.abandon.2) :
    Tells issuer patience next (log ++ s.survey.abandon.1.toList.map announcement) := by
  obtain ⟨⟨heard, harises⟩, hfaithful⟩ := h
  rw [Tells, hsurvey, changes_announcements]
  exact ⟨⟨_, harises.abandon⟩, hfaithful.abandon harises.separate⟩

theorem Tells.endAll (h : Tells issuer patience s log) (hsurvey : next.survey = s.survey.endAll.2) :
    Tells issuer patience next (log ++ s.survey.endAll.1.map announcement) := by
  obtain ⟨⟨heard, harises⟩, hfaithful⟩ := h
  rw [Tells, hsurvey, changes_announcements]
  exact ⟨⟨_, harises.endAll⟩, hfaithful.endAll harises.separate⟩

theorem Tells.complete (h : Tells issuer patience s log) {now : Instant}
    (hsurvey : next.survey = (s.survey.complete now).2) :
    Tells issuer patience next (log ++ (s.survey.complete now).1.changed.map announcement) := by
  obtain ⟨⟨heard, harises⟩, hfaithful⟩ := h
  rw [Tells, hsurvey, changes_announcements]
  exact ⟨⟨_, harises.complete now⟩, hfaithful.complete harises.separate harises.tidy now⟩

end Tells

/-! ### Work at the desk -/

/-- What was announced before and at the desk is faithful. -/
def TellsAt (issuer : Nat) (patience : Duration) (past : List Effect)
    (desk : Desk Handsfree AlarmKind) : Prop :=
  Tells issuer patience desk.session (past ++ desk.log)

variable {past : List Effect}

theorem upholds_issue (order : Order) :
    Work.Upholds (TellsAt issuer patience past) (issue order) := by
  intro view desk h
  rw [yields_issue]
  refine h.of_eq rfl ?_
  rw [← List.append_assoc]
  exact changes_snoc rfl _

/-- No act of the profile makes the announcements unfaithful. -/
theorem acts_tells : Acts (TellsAt issuer patience past) where
  note f haside := fun view desk h => h.of_eq (haside.survey _) rfl
  announce report hreport := by
    intro view desk h
    rw [Work.yields_announce]
    refine h.of_eq rfl ?_
    rw [← List.append_assoc]
    refine changes_snoc ?_ _
    cases report with
    | callChanged call => exact absurd rfl (hreport call)
    | _ => rfl
  dropAudio := fun view desk h => h
  issue order _ := upholds_issue order
  queryCalls :=
    upholds_queryCalls (fun _ _ h => h) fun view _ h =>
      upholds_issue .queryCalls view _ (h.begin rfl)
  record report now := fun view desk h => h.record rfl
  enter desk number now call survey hdial h := by
    have hentered : Tells issuer patience { desk.session with survey := survey }
        (past ++ desk.log ++ [call].map announcement) := h.dial hdial
    rw [List.append_assoc] at hentered
    exact hentered
  order number := upholds_issue (.dial number)
  abandonDial := by
    intro view desk h
    rw [yields_abandonDial, TellsAt, ← List.append_assoc]
    exact h.abandon rfl
  strike := fun view desk h => h.of_eq rfl rfl

/-- The order to hang up on a stuck call comes before the announcements of the pass. -/
theorem upholds_finishQuery :
    Work.Upholds (TellsAt issuer patience past) finishQuery := by
  intro view desk h
  rw [yields_finishQuery]
  have hsurveyed : Tells issuer patience (surveyed desk view.now).session
      (past ++ desk.log ++ (desk.session.survey.complete view.now).1.changed.map announcement) :=
    h.complete rfl
  cases hstuck : (desk.session.survey.complete view.now).1.stuck with
  | none =>
      rw [List.append_assoc] at hsurveyed
      exact hsurveyed
  | some age =>
      show (issueQuietly (.terminate .hangUp)).Yields view (surveyed desk view.now) _
      rw [yields_issueQuietly]
      refine hsurveyed.of_eq rfl ?_
      rw [← List.append_assoc, changes_announcements, changes_announcements, ← List.append_assoc]
      exact congrArg (· ++ _) (changes_snoc rfl _)

theorem upholds_onDisconnected :
    Work.Upholds (TellsAt issuer patience past) onDisconnected := by
  intro view desk h
  rw [yields_onDisconnected, TellsAt, ← List.append_assoc]
  exact h.endAll rfl

/-! ### The life of a link -/

/-- No errand makes the announcements unfaithful. -/
theorem lasting_tells : Link.Lasting (ρ := Request) (τ := AlarmKind)
    fun s log => Tells issuer patience s (past ++ log) where
  asked s log request accepted _ h := by
    rw [← List.append_assoc]
    exact h.of_eq rfl (changes_snoc rfl _)
  linkChanged s log previous current h := by
    rw [← List.append_assoc]
    exact h.of_eq rfl (changes_snoc rfl _)
  audioChanged s log previous current wideband h := by
    rw [← List.append_assoc]
    exact h.of_eq rfl (changes_snoc rfl _)
  failed s log fault h := by
    rw [← List.append_assoc]
    exact h.of_eq rfl (changes_snoc rfl _)
  onLinkUp s log capabilities h := h.of_eq rfl rfl
  consulted := acts_tells.profile upholds_finishQuery upholds_onDisconnected

/-- **The announced calls show the roster, and no announcement is repeated, throughout the life of
a link.** -/
theorem announcements_faithful (settings : HandsfreeSettings) (issuer : Nat) (peer : Address)
    (impulses : List (Impulse Request)) :
    let life := (Link.start peer (start settings issuer)).live impulses
    (Board.after (changes life.2)).Mirrors life.1.session.roster ∧
      Board.Terse (changes life.2) := by
  have hstart : Tells issuer settings.outgoingTimeout (start settings issuer) [] :=
    ⟨⟨[], .start⟩, .start issuer settings.outgoingTimeout⟩
  have hidle : (Link.start peer (start settings issuer) : Link Handsfree Request AlarmKind).queue =
      [] := rfl
  obtain ⟨-, hmirrors, hterse⟩ :=
    Link.Lasting.live (J := Tells issuer settings.outgoingTimeout) hidle (fun _ => lasting_tells)
      hstart impulses
  exact ⟨hmirrors, hterse⟩

end AudioLink.Handsfree
