/-
**The handsfree profile.**

What the handsfree side of a link to a gateway does on each occasion.

* `AudioLink.Handsfree.onLinkUp` — a gateway that cannot list its calls may be turned down;
* `AudioLink.Handsfree.onAudio` — the sound of calls comes here or goes away;
* `AudioLink.Handsfree.onEvent` — what the gateway reports;
* the instance of `AudioLink.ProfileSession`.
-/
import AudioLink.Handsfree.Answers
import AudioLink.Handsfree.Requests

set_option relaxedAutoImplicit false
set_option autoImplicit false

namespace AudioLink.Handsfree

/-- The sample rate of narrowband speech. -/
def narrowbandHz : Nat := 8000

/-- The sample rate of wideband speech. -/
def widebandHz : Nat := 16000

/-- What the gateway is able to do is noted; one that cannot list its calls is turned down if
the settings ask for that. -/
def onLinkUp (capabilities : Capabilities) (s : Handsfree) : Bool × Handsfree :=
  (!s.settings.requireCallStatus || capabilities.hasFeature Capabilities.enhancedCallStatus,
    { s with capabilities := capabilities })

/-- The first orders of a new connection. -/
def onConnected : Work Handsfree AlarmKind Unit := do
  let s ← Work.session
  if s.settings.disableNoiseReduction &&
      s.capabilities.hasFeature Capabilities.echoNoiseReduction then
    issueQuietly .disableNoiseReduction
  issueQuietly .querySubscriber

/-- With the link everything is gone: the calls end and nothing is pending any more. -/
def onDisconnected : Work Handsfree AlarmKind Unit := do
  let s ← Work.session
  let (ended, survey) := s.survey.endAll
  Work.update fun s => { s with ledger := s.ledger.clear, survey := survey }
  announceCalls ended
  Work.update forget

/-- The sound of calls comes here when the audio is on, unless that is not allowed; then the
audio is dropped.  It goes away when the audio is no longer on. -/
def onAudio (previous current : AudioState) (wideband : Bool) : Work Handsfree AlarmKind Unit := do
  let s ← Work.session
  if current = .on then
    if s.routeAllowed then
      Work.update fun s => { s with routed := true }
      Work.announce (.audioRoute (.callsEnabled (if wideband then widebandHz else narrowbandHz)))
    else Work.dropAudio
  else if previous = .on ∧ s.routed then
    Work.update fun s => { s with routed := false }
    Work.announce (.audioRoute .callsDisabled)

/-- What is done about an event. -/
def onEvent (event : Event) : Work Handsfree AlarmKind Verdict := do
  match event with
  | .callIndicator .. => queryCalls
  | .callListed report =>
      let now ← Work.now
      Work.update fun s => { s with survey := s.survey.record report now }
      return .ok ()
  | .commandResult outcome code => onCommandResult outcome code
  | .networkIndicator kind value => onNetworkIndicator kind value
  | .volumeChanged channel level =>
      Work.update (setEcho · true channel)
      Work.announce (.volumeChanged channel level)
      return .ok ()
  | .operatorName name =>
      Work.update fun s => { s with operatorName := some name }
      announceInfo (.operatorName (some name))
      return .ok ()
  | .subscriberNumber number =>
      Work.update fun s => { s with subscriberNumber := some number }
      announceInfo (.subscriberNumber number)
      return .ok ()
  | .voiceRecognition active =>
      Work.update fun s => { s with voiceRecognition := active }
      announceInfo (.voiceRecognition active)
      return .ok ()
  | .inBandRing enabled =>
      Work.update fun s => { s with inBandRing := enabled }
      announceInfo (.inBandRing enabled)
      return .ok ()
  | .codecChanged _ | .linkChanged .. | .audioChanged _ =>
      let view ← read
      return .error (.unexpected view.link event.title)

instance : ProfileSession Handsfree Request AlarmKind where
  profile := .handsfree
  patience s := s.settings.connectTimeout
  onLinkUp := onLinkUp
  onConnected := onConnected
  onDisconnected := onDisconnected
  onAudioChanged := onAudio
  onEvent := onEvent
  onRequest := onRequest
  onAlarm
    | .poll => queryCalls

end AudioLink.Handsfree
