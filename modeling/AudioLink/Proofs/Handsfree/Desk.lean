/-
**What the handsfree profile leaves on its desk.**

One equation for each thing that the handsfree profile does in several steps: what holds after it
is what holds of the desk that is described on the right.  Nothing beyond these equations is needed
to reason about the steps themselves.

Main definitions:

* `AudioLink.Handsfree.announcement` — what leaves the link when a call is announced;
* `AudioLink.Handsfree.putOff`, `AudioLink.Handsfree.asking` — the desk when the question for the
  list of calls is put off, and when it is about to be put;
* `AudioLink.Handsfree.entered` — the desk when a call was dialled and announced;
* `AudioLink.Handsfree.struck`, `AudioLink.Handsfree.surveyed`, `AudioLink.Handsfree.polling` — the
  desk after an answer, and after a pass;
* `AudioLink.Handsfree.rateOf`, `AudioLink.Handsfree.opening` — the rate of speech, and what leaves
  the link when the sound of calls comes here.

Main results:

* `AudioLink.Handsfree.yields_queryCalls` — the question for the list of calls is put off or put;
* `AudioLink.Handsfree.yields_dial` — a call is entered and announced before it is ordered;
* `AudioLink.Handsfree.yields_onCommandResult` — an answer is about the oldest order;
* `AudioLink.Handsfree.yields_finishQuery` — what the end of a list of calls does;
* `AudioLink.Handsfree.yields_onAudio` — the sound of calls comes here or goes away with the audio.
-/

import AudioLink.Handsfree.Profile
import AudioLink.Proofs.Yields

set_option relaxedAutoImplicit false
set_option autoImplicit false

namespace AudioLink.Handsfree

variable {view : View} {desk : Desk Handsfree AlarmKind}
  {post : Verdict → Desk Handsfree AlarmKind → Prop}
  {done : Unit → Desk Handsfree AlarmKind → Prop}

/-! ### Orders and calls -/

/-- What leaves the link when a call is announced. -/
def announcement (call : Call) : Effect := .notice (.report (.callChanged call))

@[simp] theorem yields_announceCalls (calls : List Call) :
    (announceCalls calls).Yields view desk done ↔
      done () { desk with log := desk.log ++ calls.map announcement } := by
  rw [announceCalls, Work.yields_announceAll, List.map_map]
  rfl

/-- Whether there is an effect of some kind does not depend on what is announced of calls, if no such
announcement is of that kind. -/
theorem any_announcements {p : Effect → Bool} (hp : ∀ call, p (announcement call) = false)
    (log : List Effect) (calls : List Call) :
    (log ++ calls.map announcement).any p = log.any p := by
  have hnone : (calls.map announcement).any p = false := by
    rw [List.any_map]
    exact List.any_eq_false.2 fun call _ => Bool.eq_false_iff.1 (hp call)
  rw [List.any_append, hnone, Bool.or_false]

/-- An order leaves the link as a command, whether or not the transport takes it. -/
theorem yields_issue (order : Order) :
    (issue order).Yields view desk post ↔
      let accepted := view.transport desk.log (.command order.command)
      let issued := desk.session.ledger.issue order view.now accepted
      post issued.1 { desk with
        session := { desk.session with ledger := issued.2 }
        log := desk.log ++ [.call (.command order.command) accepted] } := Iff.rfl

theorem yields_issueQuietly (order : Order) :
    (issueQuietly order).Yields view desk done ↔
      let accepted := view.transport desk.log (.command order.command)
      done () { desk with
        session := { desk.session with
          ledger := (desk.session.ledger.issue order view.now accepted).2 }
        log := desk.log ++ [.call (.command order.command) accepted] } := Iff.rfl

/-! ### Asking for the list of calls -/

/-- The question for the list of calls is put off. -/
def putOff (desk : Desk Handsfree AlarmKind) (deadline : Instant) : Desk Handsfree AlarmKind :=
  { desk with
    alarms := (desk.alarms.cancel (.session .poll)).schedule (.session .poll) deadline }

/-- The desk when the list of calls is about to be asked for. -/
def asking (desk : Desk Handsfree AlarmKind) (now : Instant) : Desk Handsfree AlarmKind :=
  { desk with
    alarms := desk.alarms.cancel (.session .poll)
    session := { desk.session with
      nextQueryAt := some (now + desk.session.settings.pollInterval)
      survey := desk.session.survey.begin } }

theorem yields_queryCalls :
    queryCalls.Yields view desk post ↔
      if desk.session.isQuerying then
        post (.ok ()) (putOff desk (view.now + desk.session.settings.pollInterval))
      else
        match desk.session.throttle view.now with
        | some delay => post (.ok ()) (putOff desk (view.now + delay))
        | none => (issue .queryCalls).Yields view (asking desk view.now) post := by
  rw [queryCalls]
  cases hthrottle : desk.session.throttle view.now with
  | none => simp [hthrottle, putOff, asking]
  | some delay => simp [hthrottle, putOff]

/-! ### Dialling -/

/-- The desk when a call was dialled and announced, before it is ordered. -/
def entered (desk : Desk Handsfree AlarmKind) (call : Call) (survey : Survey) :
    Desk Handsfree AlarmKind :=
  { desk with
    session := { desk.session with survey := survey }
    log := desk.log ++ [announcement call] }

/-- A call is entered and announced before it is ordered; when the transport takes the order the
list of calls is asked for, and otherwise the call is given up. -/
theorem yields_dial {number : String} :
    (dial number).Yields view desk post ↔
      if Text.allBlank number then
        post (.error (.invalidRequest "cannot dial an empty number")) desk
      else
        match desk.session.survey.dial number view.now with
        | .error fault => post (.error fault) desk
        | .ok (call, survey) =>
            (issue (.dial number)).Yields view (entered desk call survey) fun verdict after =>
              match verdict with
              | .ok _ => queryCalls.Yields view after post
              | .error fault => abandonDial.Yields view after fun _ last =>
                  post (.error fault) last := by
  rw [dial, Work.yields_ite]
  split
  · rfl
  · rw [Work.yields_bind, Work.yields_now, Work.yields_bind, Work.yields_session]
    cases desk.session.survey.dial number view.now with
    | error fault => rfl
    | ok dialled =>
        simp only [Work.yields_bind, Work.yields_update, yields_announceCalls]
        refine iff_of_eq (congrArg (Work.Yields _ _ _) ?_)
        funext verdict after
        cases verdict <;> rfl

/-! ### The end of calls -/

@[simp] theorem yields_abandonDial :
    abandonDial.Yields view desk done ↔
      done () { desk with
        session := { desk.session with survey := desk.session.survey.abandon.2 }
        log := desk.log ++ desk.session.survey.abandon.1.toList.map announcement } := by
  rw [abandonDial]
  simp

theorem yields_onDisconnected :
    onDisconnected.Yields view desk done ↔
      done () { desk with
        session := forget { desk.session with
          ledger := desk.session.ledger.clear, survey := desk.session.survey.endAll.2 }
        log := desk.log ++ desk.session.survey.endAll.1.map announcement } := by
  rw [onDisconnected]
  simp

/-! ### Answers -/

/-- The desk after an answer was taken for that of the oldest order. -/
def struck (desk : Desk Handsfree AlarmKind) : Desk Handsfree AlarmKind :=
  { desk with session := { desk.session with ledger := desk.session.ledger.resolve.2 } }

/-- An answer is about the oldest order, which is struck out first. -/
theorem yields_onCommandResult {outcome : Outcome} {code : Option Nat} :
    (onCommandResult outcome code).Yields view desk post ↔
      match desk.session.ledger.front? with
      | none => post (.ok ()) (struck desk)
      | some order => (onAnswer order outcome code).Yields view (struck desk) post := by
  rw [onCommandResult, Work.yields_bind, Work.yields_session]
  cases hpending : desk.session.ledger.pending with
  | nil => simp [Ledger.resolve, Ledger.front?, Ledger.actions, hpending, struck]
  | cons oldest rest => simp [Ledger.resolve, Ledger.front?, Ledger.actions, hpending, struck]

/-- When something is pending, an answer is handled as that of the oldest order. -/
theorem yields_onCommandResult_of_front {order : Order} {outcome : Outcome} {code : Option Nat}
    (hfront : desk.session.ledger.front? = some order) :
    (onCommandResult outcome code).Yields view desk post ↔
      (onAnswer order outcome code).Yields view (struck desk) post := by
  rw [yields_onCommandResult, hfront]

/-- A failure to accept a call leads to another order or is announced; when there was another order
before, it is also a fault. -/
theorem yields_onAcceptResult {action : CallControl} {mode : AcceptMode} {retried : Bool}
    {outcome : Outcome} {code : Option Nat} :
    (onAcceptResult action mode retried outcome code).Yields view desk post ↔
      if outcome.isOk then post (.ok ()) desk
      else
        match retryFor desk.session action retried with
        | some alternative => (issue (.accept alternative mode true)).Yields view desk post
        | none =>
            post (if retried then .error (.retryExhausted ("accept (" ++ action.code ++ ")"))
                else .ok ())
              { desk with log := desk.log ++ [.notice (.report (.commandResult outcome code))] } := by
  rw [onAcceptResult, Work.yields_ite]
  split
  · rfl
  · rw [Work.yields_bind, Work.yields_session]
    cases retryFor desk.session action retried with
    | some alternative => rfl
    | none =>
        rw [Work.yields_bind, surface, Work.yields_announce, Work.yields_ite]
        split
        · rfl
        · rfl

/-- The desk after a pass. -/
def surveyed (desk : Desk Handsfree AlarmKind) (now : Instant) : Desk Handsfree AlarmKind :=
  { desk with session := { desk.session with survey := (desk.session.survey.complete now).2 } }

/-- The alarms after an ordinary pass: that of the next question is armed if there is to be one,
and cancelled otherwise. -/
def polling (alarms : Alarms (AudioLink.AlarmKind AlarmKind)) (pollAgain : Bool)
    (deadline : Instant) : Alarms (AudioLink.AlarmKind AlarmKind) :=
  if pollAgain then
    if alarms.isArmed (.session .poll) then alarms else alarms.schedule (.session .poll) deadline
  else alarms.cancel (.session .poll)

/-- The end of a list of calls ends every call when one of them is stuck; otherwise it arms or
cancels the alarm of the next question. -/
theorem yields_finishQuery :
    finishQuery.Yields view desk post ↔
      match (desk.session.survey.complete view.now).1.stuck with
      | some age =>
          (issueQuietly (.terminate .hangUp)).Yields view (surveyed desk view.now) fun _ after =>
            post (.error (.stuckCall age)) { after with
              alarms := after.alarms.cancel (.session .poll)
              log := after.log ++
                (desk.session.survey.complete view.now).1.changed.map announcement }
      | none =>
          post (.ok ()) { surveyed desk view.now with
            alarms := polling desk.alarms (desk.session.survey.complete view.now).1.pollAgain
              (view.now + desk.session.settings.pollInterval)
            log := desk.log ++
              (desk.session.survey.complete view.now).1.changed.map announcement } := by
  rw [finishQuery]
  cases hstuck : (desk.session.survey.complete view.now).1.stuck with
  | some age => simp [hstuck, surveyed]
  | none =>
      cases hagain : (desk.session.survey.complete view.now).1.pollAgain with
      | false => simp [hstuck, hagain, surveyed, polling]
      | true =>
          cases harmed : desk.alarms.isArmed (.session .poll) with
          | false => simp [hstuck, hagain, harmed, surveyed, polling]
          | true => simp [hstuck, hagain, harmed, surveyed, polling]

/-! ### The sound of calls -/

/-- The rate of speech of either kind. -/
def rateOf (wideband : Bool) : Nat := if wideband then widebandHz else narrowbandHz

theorem rateOf_inj {wideband other : Bool} : rateOf wideband = rateOf other ↔ wideband = other := by
  revert wideband other
  decide

/-- The platform is told that the sound of calls comes here. -/
def opening (rate : Nat) : Effect := .notice (.report (.audioRoute (.callsEnabled rate)))

/-- When the audio changes, the way of the sound is opened or closed, or stays as it is. -/
theorem yields_onAudio {previous current : AudioState} {wideband : Bool} :
    (onAudio previous current wideband).Yields view desk done ↔
      if current = .on then
        if desk.session.routeAllowed then
          done () { desk with
            session := { desk.session with routed := true }
            log := desk.log ++ [opening (rateOf wideband)] }
        else done () { desk with drops := desk.drops + 1 }
      else if previous = .on ∧ desk.session.routed = true then
        done () { desk with
          session := { desk.session with routed := false }
          log := desk.log ++ [.notice (.report (.audioRoute .callsDisabled))] }
      else done () desk := by
  rw [onAudio, Work.yields_bind, Work.yields_session]
  simp only [Work.yields_ite, Work.yields_bind, Work.yields_update, Work.yields_announce,
    Work.yields_dropAudio, Work.yields_pure]
  rfl

/-- Whether the sound is allowed is noted; if it is not, audio that is there is to be dropped. -/
theorem yields_allowAudioRoute {allowed : Bool} :
    (allowAudioRoute allowed).Yields view desk done ↔
      done () { desk with
        session := { desk.session with routeAllowed := allowed }
        drops := if !allowed && view.audio != .off then desk.drops + 1 else desk.drops } := by
  rw [allowAudioRoute, Work.yields_bind, Work.yields_read, Work.yields_bind, Work.yields_update,
    Work.yields_ite]
  split
  · rfl
  · rfl

theorem yields_onRequest_allow {allowed : Bool} :
    (onRequest (.allowAudioRoute allowed)).Yields view desk post ↔
      post (.ok ()) { desk with
        session := { desk.session with routeAllowed := allowed }
        drops := if !allowed && view.audio != .off then desk.drops + 1 else desk.drops } := by
  show (allowAudioRoute allowed >>= fun _ => pure (.ok ()) :
    Work Handsfree AlarmKind Verdict).Yields view desk post ↔ _
  rw [Work.yields_bind, yields_allowAudioRoute]
  rfl

end AudioLink.Handsfree
