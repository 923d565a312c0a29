/-
**Answers and indicators of a gateway.**

* `AudioLink.Handsfree.onCommandResult` — an answer, which belongs to the oldest pending order;
* `AudioLink.Handsfree.finishQuery` — the end of a list of calls;
* `AudioLink.Handsfree.onNetworkIndicator` — what the gateway says about its network.
-/
import AudioLink.Handsfree.State

set_option relaxedAutoImplicit false
set_option autoImplicit false

namespace AudioLink.Handsfree

/-- A failure is handed on to the user. -/
def surface (outcome : Outcome) (code : Option Nat) : Work Handsfree AlarmKind Unit :=
  Work.announce (.commandResult outcome code)

/-- Only a failure is handed on to the user. -/
def surfaceFailure (outcome : Outcome) (code : Option Nat) : Work Handsfree AlarmKind Unit := do
  unless outcome.isOk do surface outcome code

/-- The other way of accepting a call that is tried after a refusal: only once, and only while no
call is active. -/
def retryFor (s : Handsfree) (action : CallControl) (retried : Bool) : Option CallControl :=
  if retried || s.roster.hasState .active then none
  else s.settings.acceptRetry.fallback action s.roster

/-- Accepting a call was answered. -/
def onAcceptResult (action : CallControl) (mode : AcceptMode) (retried : Bool) (outcome : Outcome)
    (code : Option Nat) : Work Handsfree AlarmKind Verdict := do
  if outcome.isOk then return .ok ()
  else
    match retryFor (← Work.session) action retried with
    | some alternative => issue (.accept alternative mode true)
    | none =>
        surface outcome code
        if retried then return .error (.retryExhausted ("accept (" ++ action.code ++ ")"))
        else return .ok ()

/-- Dialling was answered; a failed call is over. -/
def onDialResult (outcome : Outcome) (code : Option Nat) : Work Handsfree AlarmKind Unit := do
  unless outcome.isOk do
    abandonDial
    surface outcome code

/-- Starting or stopping voice recognition was answered. -/
def onVoiceResult (active : Bool) (outcome : Outcome) (code : Option Nat) :
    Work Handsfree AlarmKind Unit := do
  if outcome.isOk then
    if (← Work.session).voiceRecognition ≠ active then
      Work.update fun s => { s with voiceRecognition := active }
      announceInfo (.voiceRecognition active)
  else surface outcome code

/-- The list of calls is complete.  A call that was dialled here and never listed is hung up on;
otherwise the list is asked for again as long as there are calls. -/
def finishQuery : Work Handsfree AlarmKind Verdict := do
  let now ← Work.now
  let (pass, survey) := (← Work.session).survey.complete now
  Work.update fun s => { s with survey := survey }
  match pass.stuck with
  | some age =>
      issueQuietly (.terminate .hangUp)
      announceCalls pass.changed
      Work.disarm .poll
      return .error (.stuckCall age)
  | none =>
      announceCalls pass.changed
      if pass.pollAgain then
        unless ← Work.isArmed .poll do
          Work.arm .poll (← Work.session).settings.pollInterval
      else Work.disarm .poll
      return .ok ()

/-- The gateway answered an order. -/
def onAnswer (order : Order) (outcome : Outcome) (code : Option Nat) :
    Work Handsfree AlarmKind Verdict := do
  match order with
  | .accept action mode retried => onAcceptResult action mode retried outcome code
  | .dial _ =>
      onDialResult outcome code
      return .ok ()
  | .reject _ | .hold _ | .terminate _ | .privateMode _ | .transfer | .sendTone _ =>
      surfaceFailure outcome code
      return .ok ()
  | .disableNoiseReduction | .setVolume .. | .querySubscriber | .queryOperator => return .ok ()
  | .startVoiceRecognition =>
      onVoiceResult true outcome code
      return .ok ()
  | .stopVoiceRecognition =>
      onVoiceResult false outcome code
      return .ok ()
  | .queryCalls => finishQuery

/-- The gateway answered: the oldest pending order, or none, which is passed over. -/
def onCommandResult (outcome : Outcome) (code : Option Nat) :
    Work Handsfree AlarmKind Verdict := do
  let (pending, ledger) := (← Work.session).ledger.resolve
  Work.update fun s => { s with ledger := ledger }
  match pending with
  | some pending => onAnswer pending.action outcome code
  | none => return .ok ()

/-- The gateway has a network now, so that its operator can be asked for, or has lost it. -/
def onServiceChanged (available : Bool) : Work Handsfree AlarmKind Verdict := do
  Work.update fun s => { s with networkService := available }
  announceInfo (.networkService available)
  if available then issue .queryOperator
  else
    if (← Work.session).operatorName.isSome then
      Work.update fun s => { s with operatorName := none }
      announceInfo (.operatorName none)
    return .ok ()

/-- The gateway says something about its network or its battery. -/
def onNetworkIndicator (kind : NetworkIndicator) (value : Nat) :
    Work Handsfree AlarmKind Verdict := do
  match kind with
  | .serviceAvailable => onServiceChanged (value != 0)
  | .roaming =>
      announceInfo (.roaming (value != 0))
      return .ok ()
  | .signalStrength =>
      announceInfo (.signalStrength value)
      return .ok ()
  | .batteryLevel =>
      announceInfo (.batteryLevel value)
      return .ok ()

/-- A retry differs from what was refused, and nothing is retried twice. -/
theorem retryFor_eq_some {s : Handsfree} {action alternative : CallControl} {retried : Bool}
    (h : retryFor s action retried = some alternative) :
    retried = false ∧ s.roster.hasState .active = false ∧ alternative ≠ action := by
  unfold retryFor at h
  split at h
  · simp at h
  · next idle =>
      simp only [Bool.or_eq_true, not_or, Bool.not_eq_true] at idle
      exact ⟨idle.1, idle.2, AcceptRetry.fallback_ne h⟩

end AudioLink.Handsfree
