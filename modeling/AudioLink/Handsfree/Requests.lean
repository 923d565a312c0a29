/-
**Requests of the user to a gateway.**

* `AudioLink.Handsfree.dial` — a call is dialled and announced at once;
* `AudioLink.Handsfree.control` — an action on the calls, if the calls and the gateway allow it;
* `AudioLink.Handsfree.setVolume` — a volume is set, unless it only echoes the gateway;
* `AudioLink.Handsfree.onRequest` — any request.
-/
import AudioLink.Handsfree.State
import AudioLink.Text.Blank

set_option relaxedAutoImplicit false
set_option autoImplicit false

namespace AudioLink.Handsfree

/-- The highest volume. -/
def maxVolume : Nat := 15

/-- The keys of a telephone. -/
def isKey (c : Char) : Bool :=
  "0123456789*#ABCD".toList.contains c

/-- A call is dialled.  It is announced at once, and as ended if the transport refuses. -/
def dial (number : String) : Work Handsfree AlarmKind Verdict := do
  if Text.allBlank number then return .error (.invalidRequest "cannot dial an empty number")
  else
    let now ← Work.now
    match (← Work.session).survey.dial number now with
    | .error fault => return .error fault
    | .ok (call, survey) =>
        Work.update fun s => { s with survey := survey }
        announceCalls [call]
        match ← issue (.dial number) with
        | .ok () => queryCalls
        | .error fault =>
            abandonDial
            return .error fault

/-- An order that takes a suitable call is issued if there is one. -/
def control (operation : String) (choose : Roster → Option CallControl)
    (order : CallControl → Order) : Work Handsfree AlarmKind Verdict := do
  match choose (← Work.session).roster with
  | some action => issue (order action)
  | none => return .error (.noMatchingCall operation)

/-- What takes a special ability of the gateway is refused without it. -/
def requiring (ability : UInt32) (operation : String) (next : Work Handsfree AlarmKind Verdict) :
    Work Handsfree AlarmKind Verdict := do
  if (← Work.session).capabilities.supportsCallHold ability then next
  else return .error (.invalidRequest ("gateway does not support " ++ operation))

/-- The ongoing call is ended, or only the active call of the given number. -/
def terminate (number : Option Nat) : Work Handsfree AlarmKind Verdict :=
  let ending := control "terminate" (·.terminate number) .terminate
  if number.isSome then
    requiring Capabilities.releaseSpecific "releasing a specific call" ending
  else ending

/-- A tone of the telephone's keys is sent. -/
def sendTone (code : Char) : Work Handsfree AlarmKind Verdict := do
  if isKey code then issue (.sendTone code)
  else return .error (.invalidRequest ("invalid DTMF code " ++ Text.quotedLetter code))

/-- Voice recognition is switched on or off, if the gateway has it and it is not so already. -/
def setVoiceRecognition (active : Bool) : Work Handsfree AlarmKind Verdict := do
  let s ← Work.session
  if !s.capabilities.hasFeature Capabilities.voiceRecognition then
    return .error (.invalidRequest "gateway has no voice recognition")
  else if s.voiceRecognition = active then return .ok ()
  else issue (if active then .startVoiceRecognition else .stopVoiceRecognition)

/-- Whether the next volume of a channel only echoes the gateway. -/
def echoes (s : Handsfree) : VolumeChannel → Bool
  | .speaker => s.speakerEcho
  | .microphone => s.microphoneEcho

/-- The next volume of a channel is taken as an echo, or no longer. -/
def setEcho (s : Handsfree) (echo : Bool) : VolumeChannel → Handsfree
  | .speaker => { s with speakerEcho := echo }
  | .microphone => { s with microphoneEcho := echo }

/-- A volume is sent to the gateway, unless it is the echo of one that came from there. -/
def setVolume (channel : VolumeChannel) (level : Nat) : Work Handsfree AlarmKind Verdict := do
  if maxVolume < level then
    return .error
      (.invalidRequest ("volume " ++ Nat.repr level ++ " above " ++ Nat.repr maxVolume))
  else if echoes (← Work.session) channel then
    Work.update (setEcho · false channel)
    return .ok ()
  else issue (.setVolume channel level)

/-- The sound of calls may come here or not; if not, audio that is there is dropped. -/
def allowAudioRoute (allowed : Bool) : Work Handsfree AlarmKind Unit := do
  let view ← read
  Work.update fun s => { s with routeAllowed := allowed }
  if !allowed && view.audio != .off then Work.dropAudio

/-- What is done about a request. -/
def onRequest : Request → Work Handsfree AlarmKind Verdict
  | .dial number => dial number
  | .accept mode => control "accept" (·.acceptWith mode) (.accept · mode false)
  | .reject => control "reject" (·.reject) .reject
  | .hold => control "hold" (·.hold) .hold
  | .terminate number => terminate number
  | .privateMode number =>
      requiring Capabilities.privateConsultation "private consultation"
        (control "private mode" (·.privateMode number) fun _ => .privateMode number)
  | .transfer =>
      requiring Capabilities.mergeAndDetach "explicit call transfer"
        (control "explicit call transfer" (·.transfer) fun _ => .transfer)
  | .sendTone code => sendTone code
  | .startVoiceRecognition => setVoiceRecognition true
  | .stopVoiceRecognition => setVoiceRecognition false
  | .setSpeakerVolume level => setVolume .speaker level
  | .setMicrophoneVolume level => setVolume .microphone level
  | .allowAudioRoute allowed => do
      allowAudioRoute allowed
      return .ok ()
  | .queryCalls => queryCalls
  | .queryOperator => issue .queryOperator

end AudioLink.Handsfree
