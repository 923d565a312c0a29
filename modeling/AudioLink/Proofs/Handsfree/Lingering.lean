/-
**Calls that are over and stay.**

A call that has ended is announced as ended and taken out of the roster: when it is given up, when
the link is gone, and when the gateway lists it no longer.  But the gateway may also list a call as
ended.  A pass takes such an entry for a call like any other, so that the call stays in the roster,
ended, until a later list leaves it out.  This is the only way: the numbered calls always stand in
the states in which the list that was taken in last tells of them, whatever else has happened since.

Main definitions:

* `AudioLink.Handsfree.endsList` — an impulse ends a list of calls;
* `AudioLink.Handsfree.lastTaken` — the list that was taken in last, of what the link had recorded
  when it ended; that it can be followed from outside is shown in
  `AudioLink.Proofs.Handsfree.Overhearing`;
* `AudioLink.Roster.Concords` — two rosters have the same numbered calls in the same states;
* `AudioLink.Handsfree.Stands` — the numbered calls stand as the list tells.

Main results:

* `AudioLink.Survey.concords_complete` — a pass takes over the states it is told of;
* `AudioLink.Handsfree.stands_respond` — **whatever the impulse, the calls stand as the list that
  was taken in last tells**;
* `AudioLink.Handsfree.ended_iff_listed` — **a call of the roster is over exactly when the list that
  was taken in last tells of a call that is over**;
* `AudioLink.Handsfree.ended_call_stays` — there may be one.
-/

import AudioLink.Proofs.Handsfree.Losses
import AudioLink.Proofs.Link.Turns

set_option relaxedAutoImplicit false
set_option autoImplicit false

namespace AudioLink

/-! ### Rosters -/

/-- Two rosters have numbered calls under the same numbers, and in the same states. -/
def Roster.Concords (roster told : Roster) : Prop :=
  ∀ n, (roster.get? (.peer n)).map Call.state = (told.get? (.peer n)).map Call.state

/-- As long as a call dialled here is not over, and the other roster has only numbered calls, both
have calls that are over or neither. -/
theorem Roster.Concords.exists_ended_iff {roster told : Roster} (h : roster.Concords told)
    (hlocal : ∀ call, roster.get? .localOrigin = some call → call.state ≠ .terminated)
    (htold : told.get? .localOrigin = none) :
    (∃ call ∈ roster.calls, call.state = .terminated) ↔
      ∃ report ∈ told.calls, report.state = .terminated := by
  constructor
  · rintro ⟨call, hcall, hended⟩
    have hfound : roster.get? call.index = some call := Roster.get?_of_mem hcall
    cases hindex : call.index with
    | localOrigin =>
        rw [hindex] at hfound
        exact absurd hended (hlocal call hfound)
    | peer n =>
        have hstate := h n
        rw [← hindex, hfound, Option.map_some] at hstate
        obtain ⟨report, hreport, hsame⟩ := Option.map_eq_some_iff.1 hstate.symm
        exact ⟨report, Roster.mem_of_get? hreport, hsame.trans hended⟩
  · rintro ⟨report, hreport, hended⟩
    have hfound : told.get? report.index = some report := Roster.get?_of_mem hreport
    cases hindex : report.index with
    | localOrigin =>
        rw [hindex, htold] at hfound
        cases hfound
    | peer n =>
        have hstate := h n
        rw [← hindex, hfound, Option.map_some] at hstate
        obtain ⟨call, hcall, hsame⟩ := Option.map_eq_some_iff.1 hstate
        exact ⟨call, Roster.mem_of_get? hcall, hsame.trans hended⟩

namespace Survey

variable {s next : Survey} {told : Roster}

/-- A call dialled here has no number. -/
theorem concords_dial {number : String} {now : Instant} {call : Call}
    (hdial : s.dial number now = .ok (call, next)) (h : s.roster.Concords told) :
    next.roster.Concords told := by
  obtain ⟨-, rfl, rfl⟩ := dial_eq_ok hdial
  intro n
  show ((s.roster.insert _).get? (.peer n)).map Call.state = _
  rw [Roster.get?_insert, if_neg CallIndex.noConfusion]
  exact h n

theorem concords_abandon (h : s.roster.Concords told) : s.abandon.2.roster.Concords told := by
  intro n
  show ((s.roster.erase .localOrigin).get? (.peer n)).map Call.state = _
  rw [Roster.get?_erase, if_neg CallIndex.noConfusion]
  exact h n

/-- What a pass takes in: the recorded entries, or nothing if it gives up. -/
def taken (s : Survey) (now : Instant) : Roster :=
  if (s.stuckAge now).isSome then .empty else s.burst

/-- **A pass takes over the states it is told of.** -/
theorem concords_complete (s : Survey) (now : Instant) :
    (s.complete now).2.roster.Concords (s.taken now) := by
  intro n
  cases hstuck : s.stuckAge now with
  | some age =>
      rw [complete_eq_of_stuck hstuck, taken, hstuck]
      rfl
  | none =>
      rw [complete_eq hstuck, taken, hstuck]
      show (s.reconciled.get? (.peer n)).map Call.state = (s.burst.get? (.peer n)).map Call.state
      rw [get?_reconciled, Option.map_map]
      exact congrArg (Option.map · _) (funext fun report => state_identify s report)

end Survey

namespace Handsfree

/-! ### The list that was taken in last -/

/-- Whether an impulse ends a list of calls: it is the answer to the question for it. -/
def endsList (link : Link Handsfree Request AlarmKind) : Impulse Request → Bool
  | .hand _ (.event (.commandResult _ _)) =>
      link.state != .disconnected && link.session.ledger.front? == some .queryCalls
  | _ => false

/-- The list that was taken in last, if the link is not gone after an impulse. -/
def takenAt (link : Link Handsfree Request AlarmKind) (impulse : Impulse Request)
    (taken : Roster) : Roster :=
  if endsList link impulse then link.session.survey.taken impulse.scene.now else taken

/-- The list that was taken in last, after an impulse.  Once the link has come to be disconnected,
no list counts any more. -/
def noteTaken (link : Link Handsfree Request AlarmKind) (impulse : Impulse Request)
    (log : List Effect) (taken : Roster) : Roster :=
  if Link.DropsOut log then .empty else takenAt link impulse taken

/-- The list that was taken in last in the course of a life. -/
def lastTaken (link : Link Handsfree Request AlarmKind) (impulses : List (Impulse Request)) :
    Roster :=
  link.keep noteTaken impulses .empty

/-- The numbered calls stand as a list tells; once the link has come to be disconnected, there are
none. -/
def Stands (taken : Roster) (s : Handsfree) (log : List Effect) : Prop :=
  s.roster.Concords (if Link.DropsOut log then .empty else taken)

section Stands

variable {taken : Roster} {s next : Handsfree} {log log' : List Effect}

/-- Only the calls matter, and whether the link has come to be disconnected. -/
theorem Stands.of_eq (h : Stands taken s log) (hroster : next.roster = s.roster)
    (hlog : Link.DropsOut log' ↔ Link.DropsOut log) : Stands taken next log' := by
  rw [Stands, hroster, if_congr hlog rfl rfl]
  exact h

theorem Stands.snoc (h : Stands taken s log) {effect : Effect}
    (hother : Link.dropsOut effect = false) : Stands taken s (log ++ [effect]) := by
  refine h.of_eq rfl ?_
  rw [Link.dropsOut_snoc, hother, or_iff_left Bool.false_ne_true]

theorem Stands.announcements (h : Stands taken s log) (calls : List Call) :
    Stands taken s (log ++ calls.map announcement) :=
  h.of_eq rfl (by rw [Link.DropsOut, any_announcements fun _ => rfl]; rfl)

end Stands

/-! ### Work at the desk -/

/-- At the desk, the numbered calls stand as a list tells. -/
def StandsAt (taken : Roster) (desk : Desk Handsfree AlarmKind) : Prop :=
  Stands taken desk.session desk.log

section Work

variable {taken : Roster} {view : View} {desk : Desk Handsfree AlarmKind}

theorem upholds_issue_stands (order : Order) : Work.Upholds (StandsAt taken) (issue order) := by
  intro view desk h
  rw [yields_issue]
  exact h.snoc rfl

/-- No act of the profile is about the states of the numbered calls. -/
theorem acts_stands : Acts (StandsAt taken) where
  note f haside := fun view desk h => by
    rw [Work.yields_update]
    exact h.of_eq (congrArg Survey.roster (haside.survey _)) Iff.rfl
  announce report _ := fun _ _ h => h.snoc rfl
  dropAudio := fun _ _ h => h
  issue order _ := upholds_issue_stands order
  queryCalls :=
    upholds_queryCalls (fun _ _ h => h) fun view _ h => upholds_issue_stands .queryCalls view _ h
  record report now := fun _ _ h => h
  enter desk number now call survey hdial h :=
    (show Stands taken { desk.session with survey := survey } desk.log from
      Survey.concords_dial hdial h).snoc rfl
  order number := upholds_issue_stands (.dial number)
  abandonDial := by
    intro view desk h
    rw [yields_abandonDial]
    exact Stands.announcements (s := { desk.session with survey := desk.session.survey.abandon.2 })
      (Survey.concords_abandon h) _
  strike := fun _ _ h => h

/-- At the end of a list the calls stand as the list tells. -/
theorem yields_finishQuery_stands (hlog : ¬Link.DropsOut desk.log) :
    finishQuery.Yields view desk fun _ after =>
      StandsAt (desk.session.survey.taken view.now) after := by
  have hsurveyed : StandsAt (desk.session.survey.taken view.now) (surveyed desk view.now) := by
    have hup : ¬Link.DropsOut (surveyed desk view.now).log := hlog
    rw [StandsAt, Stands, if_neg hup]
    exact Survey.concords_complete desk.session.survey view.now
  rw [yields_finishQuery]
  split
  · refine Work.yields_mono (upholds_issueQuietly (upholds_issue_stands _) view _ hsurveyed) ?_
    intro _ after hafter
    exact hafter.announcements _
  · exact hsurveyed.announcements _

/-- With the link there are no calls. -/
theorem yields_onDisconnected_stands (previous : LinkState) :
    onDisconnected.Yields view
      { desk with log := desk.log ++ [.notice (.linkChanged previous .disconnected)] }
      fun _ after => StandsAt taken after := by
  have hdropped : Link.DropsOut (desk.log ++ [.notice (.linkChanged previous .disconnected)]) :=
    Link.dropsOut_snoc.2 (.inr rfl)
  rw [yields_onDisconnected, StandsAt, Stands, if_pos (Link.persists_dropsOut _ _ hdropped)]
  exact fun _ => rfl

end Work

/-! ### The life of a link -/

section Life

variable {taken : Roster} {link : Link Handsfree Request AlarmKind}

/-- Nothing but the end of a list changes the states of the numbered calls. -/
theorem mending_stands : Link.Mending (ρ := Request) (Stands taken) where
  audioChanged _ _ _ _ _ h := h.snoc rfl
  onAudioChanged := acts_stands.upholds_onAudio
  onConnected := acts_stands.upholds_onConnected
  asked _ _ _ _ _ h := h.snoc rfl
  linkChanged s log previous current hup h := by
    refine h.snoc ?_
    cases current with
    | disconnected => exact absurd rfl hup
    | _ => rfl
  failed _ _ _ h := h.snoc rfl
  onLinkUp _ _ _ h := h
  onDisconnected previous _ _ _ := yields_onDisconnected_stands previous
  onEvent event hother := acts_stands.upholds_onEvent event
    fun outcome code heq => absurd heq (hother outcome code)
  onRequest request := acts_stands.upholds_onRequest request
    fun number _ => acts_stands.upholds_dial number
  onAlarm kind := match kind with
    | .poll => acts_stands.queryCalls

/-- An answer leaves the calls as they stand, unless it ends a list. -/
theorem yields_answer_stands {scene : Scene} {outcome : Outcome} {code : Option Nat}
    (h : Stands taken link.session []) :
    (Link.onErrand (.message (.event (.commandResult outcome code))) :
      Step Handsfree Request AlarmKind Verdict).Yields scene ⟨link, []⟩ fun _ after =>
        Stands (takenAt link (.hand scene (.event (.commandResult outcome code))) taken)
          after.link.session after.log := by
  by_cases hdown : link.state = .disconnected
  · refine (Link.yields_onErrand_event_unheard hdown rfl).2 ?_
    rw [takenAt, endsList, hdown]
    exact h
  · have hends : endsList link (.hand scene (.event (.commandResult outcome code))) =
        (link.session.ledger.front? == some .queryCalls) := by
      rw [endsList, bne_iff_ne.2 hdown, Bool.true_and]
    refine (Link.yields_onErrand_event hdown rfl).2 ?_
    rw [takenAt, hends, Step.yields_consult]
    show (onCommandResult outcome code).Yields (Step.view scene link) (Step.desk ⟨link, []⟩) _
    have hledger : (Step.desk ⟨link, []⟩).session.ledger = link.session.ledger := rfl
    rw [yields_onCommandResult, hledger]
    cases hfront : link.session.ledger.front? with
    | none => exact h
    | some order =>
        by_cases hquery : order = .queryCalls
        · subst hquery
          have hup : ¬Link.DropsOut (struck (Step.desk ⟨link, []⟩)).log := Bool.false_ne_true
          exact yields_finishQuery_stands hup
        · rw [if_neg fun heq => hquery (Option.some.inj (beq_iff_eq.1 heq))]
          exact acts_stands.upholds_onAnswer order outcome code (fun heq => absurd heq hquery) _ _ h

/-- **Whatever the impulse, the calls stand as the list that was taken in last tells.** -/
theorem stands_respond (hlink : Link.Between link) (h : link.session.roster.Concords taken)
    (impulse : Impulse Request) :
    (link.respond impulse).1.session.roster.Concords
      (noteTaken link impulse (link.respond impulse).2 taken) := by
  show Stands (takenAt link impulse taken) (link.respond impulse).1.session (link.respond impulse).2
  by_cases hanswer : ∃ scene outcome code,
      impulse = .hand scene (.event (.commandResult outcome code))
  · obtain ⟨scene, outcome, code, rfl⟩ := hanswer
    exact mending_stands.respond_hand hlink (yields_answer_stands h)
  · have hother : ∀ scene outcome code,
        impulse ≠ .hand scene (.event (.commandResult outcome code)) :=
      fun scene outcome code heq => hanswer ⟨scene, outcome, code, heq⟩
    have hgoing : endsList link impulse = false := by
      unfold endsList
      split
      · exact absurd rfl (hother _ _ _)
      · rfl
    rw [takenAt, hgoing]
    exact mending_stands.respond hlink impulse h hother

variable (settings : HandsfreeSettings) (issuer : Nat) (peer : Address)
  (impulses : List (Impulse Request))

/-- The calls stand as the list that was taken in last tells, throughout the life of a link. -/
theorem stands_live :
    ((Link.start peer (start settings issuer)).live impulses).1.session.roster.Concords
      (lastTaken (Link.start peer (start settings issuer)) impulses) :=
  (Link.keep_induction (P := fun link taken => Link.Between link ∧
      link.session.roster.Concords taken)
    (fun _ impulse _ h => ⟨Link.between_respond h.1 impulse, stands_respond h.1 h.2 impulse⟩)
    ⟨Link.between_start peer _, fun _ => rfl⟩ impulses).2

/-- The list that was taken in last is one of numbered calls. -/
theorem get?_lastTaken_local :
    (lastTaken (Link.start peer (start settings issuer)) impulses).get? .localOrigin = none := by
  induction impulses using List.reverseRecOn with
  | nil => rfl
  | append_singleton before impulse ih =>
      rw [lastTaken, Link.keep_snoc, noteTaken, takenAt, Survey.taken]
      split
      · rfl
      · split
        · split
          · rfl
          · exact Survey.numbered _
        · exact ih

/-- **When a call that is over stays.**  At any moment in the life of a link, some call of the
roster is over exactly when the list that was taken in last, since the link has come to be
disconnected, tells of a call that is over. -/
theorem ended_iff_listed :
    let link : Link Handsfree Request AlarmKind := Link.start peer (start settings issuer)
    (∃ call ∈ (link.live impulses).1.session.roster.calls, call.state = .terminated) ↔
      ∃ report ∈ (lastTaken link impulses).calls, report.state = .terminated := by
  intro link
  refine (stands_live settings issuer peer impulses).exists_ended_iff (fun call hcall => ?_)
    (get?_lastTaken_local settings issuer peer impulses)
  obtain ⟨heard, harises⟩ := arises_live settings issuer peer impulses
  obtain ⟨hdialing, -⟩ := harises.tidy.dialled call hcall
  rw [hdialing]
  exact CallState.noConfusion

end Life

/-- A gateway has listed an active call.  When it is asked about it again, it lists the call as
ended. -/
def hangingUp : List (Impulse Request) :=
  recheck ++
    [.hand (obliging due) (.event (.callListed ⟨1, .incoming, .terminated, false, "5551"⟩)),
      .hand (obliging due) (.event (.commandResult .ok none))]

/-- The call that is over stays, and it will be asked about again. -/
theorem ended_call_stays :
    let life := fresh.live hangingUp
    Settings.standard.problem? = none ∧ life.1.state = .connected ∧
      (∃ call ∈ life.1.session.roster.calls, call.state = .terminated) ∧
      life.1.alarms.isArmed (.session .poll) = true := by
  intro life
  have hlife : life = (Link.liveFor 1 fresh hangingUp).get rfl := Link.live_eq_get 1 rfl
  rw [hlife]
  exact ⟨rfl, rfl, by decide, rfl⟩

end Handsfree

end AudioLink
