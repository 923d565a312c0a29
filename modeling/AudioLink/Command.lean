/-
**What the transport is asked to do.**

Connecting, disconnecting and commands to the device all go through the transport, which says at
once whether it takes a request.  The outcome is reported later.

* `AudioLink.Command` — the commands to a device;
* `AudioLink.Outgoing` — everything that the transport is asked.
-/
import AudioLink.Call.Control
import AudioLink.Codec.Config
import AudioLink.Event

set_option relaxedAutoImplicit false
set_option autoImplicit false

namespace AudioLink

/-- A command to a device. -/
inductive Command where
  | connectAudio
  | disconnectAudio
  | dial (number : String)
  | call (action : CallControl)
  | queryCurrentCalls
  | queryOperatorName
  | querySubscriberNumber
  | setVolume (channel : VolumeChannel) (level : Nat)
  | sendTone (code : Char)
  | startVoiceRecognition
  | stopVoiceRecognition
  /-- Echo cancelling and noise reduction are to be turned off. -/
  | disableNoiseReduction
  /-- The codec configurations to prefer, in order. -/
  | preferCodecs (configs : List CodecConfig)
  deriving DecidableEq, Repr

namespace Command

/-- The name of a command. -/
def title : Command → String
  | connectAudio => "ConnectAudio"
  | disconnectAudio => "DisconnectAudio"
  | dial _ => "Dial"
  | call _ => "Call"
  | queryCurrentCalls => "QueryCurrentCalls"
  | queryOperatorName => "QueryOperatorName"
  | querySubscriberNumber => "RetrieveSubscriberInfo"
  | setVolume .. => "SetVolume"
  | sendTone _ => "SendDtmf"
  | startVoiceRecognition => "StartVoiceRecognition"
  | stopVoiceRecognition => "StopVoiceRecognition"
  | disableNoiseReduction => "DisableNrec"
  | preferCodecs _ => "SetCodecPreference"

instance : Outlined Command where
  outline command := match command with
    | dial number => .record command.title [.field "number" (.text number)]
    | call action => .tuple command.title [Outlined.outline action]
    | setVolume channel level => .record command.title
        [.field "channel" (Outlined.outline channel), .field "level" (.nat level)]
    | sendTone code => .record command.title [.field "code" (.letter code)]
    | preferCodecs configs => .record command.title
        [.field "configs" (Outlined.outline configs)]
    | _ => .word command.title

end Command

/-- A request to the transport. -/
inductive Outgoing where
  | connect
  | disconnect
  | command (command : Command)
  deriving DecidableEq, Repr

end AudioLink
