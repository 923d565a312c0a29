/-
**What a link does about each errand.**

* `AudioLink.Link.transition` — moving to another state, with all that has to be cleared on the
  way out and set up on the way in;
* `AudioLink.Link.onConnect`, `AudioLink.Link.onDisconnect`, `AudioLink.Link.onConnectAudio`,
  `AudioLink.Link.onDisconnectAudio`, `AudioLink.Link.onEvent`, `AudioLink.Link.onRequest`,
  `AudioLink.Link.onAlarm` — one errand each;
* `AudioLink.Link.handle` — any errand; a fault that comes of it is announced, unless it only
  says that an event was out of place.
-/
import AudioLink.Link.Basic

set_option relaxedAutoImplicit false
set_option autoImplicit false

namespace AudioLink

namespace Link

variable {σ ρ τ : Type} [ProfileSession σ ρ τ] [DecidableEq τ]

/-! ### Changing state -/

/-- The audio changes; this is announced, and the profile takes notice. -/
def setAudio (audio : AudioState) (wideband : Bool) : Step σ ρ τ Unit := do
  let previous := (← Step.link).audio
  let wide := audio == .on && wideband
  Step.change fun link => { link with audio := audio, wideband := wide }
  Step.announce (.audioChanged previous audio (if audio = .on then some wide else none))
  Step.consult (ProfileSession.onAudioChanged previous audio wide)

/-- Audio that is not off is switched off. -/
def silence : Step σ ρ τ Unit := do
  if (← Step.link).audio ≠ .off then setAudio .off false

/-- What has to be cleared on leaving a state: the bound of a transient state, and with the
connection the audio and the alarms of the profile. -/
def leave : LinkState → Step σ ρ τ Unit
  | .disconnected => pure ()
  | .connecting => Step.change fun link => { link with alarms := link.alarms.cancel .connect }
  | .disconnecting =>
      Step.change fun link => { link with alarms := link.alarms.cancel .disconnect }
  | .connected => do
      silence
      Step.change fun link =>
        { link with alarms := link.alarms.cancelWhere AlarmKind.isSession }

/-- An alarm bounds the transient state that was entered. -/
def bound (kind : AlarmKind τ) : Step σ ρ τ Unit := do
  let now := (← read).now
  Step.change fun link =>
    { link with alarms := link.alarms.schedule kind (now + ProfileSession.patience link.session) }

/-- What has to be set up on entering a state: a bound on a transient one; when connected, no
deferred request to connect has anything left to do. -/
def enter : LinkState → Step σ ρ τ Unit
  | .connecting => bound .connect
  | .disconnecting => bound .disconnect
  | .connected => do
      Step.change fun link => { link with deferred := link.deferred.filter (!·.isConnect) }
      silence
      Step.consult ProfileSession.onConnected
  | .disconnected => Step.consult ProfileSession.onDisconnected

/-- What was deferred comes before everything else, in its order. -/
def replayDeferred : Step σ ρ τ Unit :=
  Step.change fun link =>
    { link with queue := link.deferred.map .message ++ link.queue, deferred := [] }

/-- The link moves to another state, which is announced; in a stable state, what was deferred is
taken up again. -/
def transition (next : LinkState) : Step σ ρ τ Unit := do
  let previous := (← Step.link).state
  if previous ≠ next then
    leave previous
    Step.change fun link => { link with state := next }
    Step.announce (.linkChanged previous next)
    enter next
    if next.isStable then replayDeferred

/-! ### Requests of the user -/

/-- To connect means to ask the transport; while the link is in a transient state, the request is
deferred, and with a connection there is nothing to do. -/
def onConnect : Step σ ρ τ Verdict := do
  match (← Step.link).state with
  | .disconnected =>
      if ← Step.ask .connect then
        transition .connecting
        return .ok ()
      else return .error (.rejected "connect")
  | .connecting | .disconnecting =>
      Step.change fun link => { link with deferred := link.deferred ++ [.connect] }
      return .ok ()
  | .connected => return .ok ()

/-- To disconnect means to ask the transport; if it refuses, the link counts as disconnected. -/
def onDisconnect : Step σ ρ τ Verdict := do
  if (← Step.link).state = .disconnected then return .ok ()
  else if ← Step.ask .disconnect then
    transition .disconnecting
    return .ok ()
  else
    transition .disconnected
    return .error (.rejected "disconnect")

/-- To connect the audio takes a connected device whose audio is off. -/
def onConnectAudio : Step σ ρ τ Verdict := do
  let link ← Step.link
  if link.state ≠ .connected then
    return .error (.invalidState ("cannot connect audio while " ++ Named.name link.state))
  else if link.audio ≠ .off then return .ok ()
  else if ← Step.ask (.command .connectAudio) then
    setAudio .connecting false
    return .ok ()
  else return .error (.rejected "connect audio")

/-- To disconnect the audio takes a connected device whose audio is not off; the change itself is
reported by the transport. -/
def onDisconnectAudio : Step σ ρ τ Verdict := do
  let link ← Step.link
  if link.state ≠ .connected then
    return .error (.invalidState ("cannot disconnect audio while " ++ Named.name link.state))
  else if link.audio = .off then return .ok ()
  else if ← Step.ask (.command .disconnectAudio) then return .ok ()
  else return .error (.rejected "disconnect audio")

/-- A request to the profile takes a connected device. -/
def onRequest [Outlined ρ] (request : ρ) : Step σ ρ τ Verdict := do
  let state := (← Step.link).state
  if state = .connected then Step.consult (ProfileSession.onRequest request)
  else
    return .error (.invalidState
      (describe request ++ " needs a connected peer, state is " ++ Named.name state))

/-! ### Reports of the transport -/

/-- A device that may not come in is sent away, whether or not the transport does it. -/
def refuse : Step σ ρ τ Unit := do
  let _ ← Step.ask .disconnect

/-- The link is up.  Unless the profile turns the device down, it is connected now. -/
def linkUp (capabilities : Capabilities) : Step σ ρ τ Unit := do
  let (suitable, session) := ProfileSession.onLinkUp capabilities (← Step.link).session
  Step.change fun link => { link with session := session }
  if suitable then transition .connected
  else if ← Step.ask .disconnect then transition .disconnecting
  else transition .disconnected

/-- What this side has not asked for needs to be admitted. -/
def ifAdmitted (next : Step σ ρ τ Unit) : Step σ ρ τ Unit := do
  let scene ← read
  if scene.preferences.admits (← Step.link).peer then next else refuse

/-- The transport reports the state of the link. -/
def onLinkChanged (report : LinkState) (capabilities : Capabilities) : Step σ ρ τ Unit := do
  match (← Step.link).state, report with
  | .disconnected, .connecting | .disconnecting, .connecting =>
      ifAdmitted (transition .connecting)
  | .disconnected, .connected | .disconnecting, .connected => ifAdmitted (linkUp capabilities)
  | .connecting, .connected => linkUp capabilities
  | .connecting, .disconnected | .connected, .disconnected | .disconnecting, .disconnected =>
      transition .disconnected
  | .connecting, .disconnecting | .connected, .disconnecting => transition .disconnecting
  | .disconnected, .disconnected | .disconnected, .disconnecting | .connecting, .connecting
  | .connected, .connecting | .connected, .connected | .disconnecting, .disconnecting => pure ()

/-- Whether a report tells something new about the audio. -/
def isNews (link : Link σ ρ τ) (report : AudioReport) : Bool :=
  report.audio != link.audio || report.audio == .on && report.wideband != link.wideband

/-- The transport reports the state of the audio.  What is known already changes nothing. -/
def onAudioReport (report : AudioReport) : Step σ ρ τ Verdict := do
  let link ← Step.link
  if link.state ≠ .connected then
    return .error (.unexpected link.state (Event.audioChanged report).title)
  else if isNews link report then
    setAudio report.audio report.wideband
    return .ok ()
  else return .ok ()

/-- Any report of the transport; what is about neither link nor audio is for the profile, as long
as there is a link at all. -/
def onEvent (event : Event) : Step σ ρ τ Verdict := do
  match event with
  | .linkChanged report capabilities =>
      onLinkChanged report capabilities
      return .ok ()
  | .audioChanged report => onAudioReport report
  | event =>
      let state := (← Step.link).state
      if state = .disconnected then return .error (.unexpected state event.title)
      else Step.consult (ProfileSession.onEvent event)

/-! ### Alarms -/

/-- Nothing was heard in time: the link is taken to be down, before anything else happens. -/
def giveUp : Step σ ρ τ Unit :=
  Step.change fun link => { link with queue := .message (.event .linkDown) :: link.queue }

/-- An alarm went off.  It counts only in the state it was armed for. -/
def onAlarm (kind : AlarmKind τ) : Step σ ρ τ Verdict := do
  let link ← Step.link
  match kind with
  | .connect =>
      if link.state = .connecting then
        refuse
        giveUp
        return .error (.timeout "connect" (ProfileSession.patience link.session))
      else return .ok ()
  | .disconnect =>
      if link.state = .disconnecting then
        giveUp
        return .ok ()
      else return .ok ()
  | .session kind =>
      if link.state = .connected then Step.consult (ProfileSession.onAlarm kind)
      else return .ok ()

/-! ### Any errand -/

/-- What is done about a message. -/
def onMessage [Outlined ρ] : Message ρ → Step σ ρ τ Verdict
  | .connect => onConnect
  | .disconnect => onDisconnect
  | .connectAudio => onConnectAudio
  | .disconnectAudio => onDisconnectAudio
  | .event event => onEvent event
  | .request request => onRequest request

/-- What is done about an errand. -/
def onErrand [Outlined ρ] : Errand ρ τ → Step σ ρ τ Verdict
  | .message message => onMessage message
  | .alarm kind => onAlarm kind

/-- A fault is announced, unless it only says that an event was out of place. -/
def announceFault (fault : Fault) : Step σ ρ τ Unit :=
  if fault.isUnexpected then pure () else Step.announce (.requestFailed fault)

/-- An errand is handled, and a fault that comes of it is told. -/
def handle [Outlined ρ] (errand : Errand ρ τ) : Step σ ρ τ Unit := do
  match ← onErrand errand with
  | .ok () => pure ()
  | .error fault => announceFault fault

end Link

end AudioLink
