/-
**What the transport reports.**

The transport reports changes of the link, of its audio and of what the device says, one event at
a time.

* `AudioLink.Event` — the events, each with what it carries;
* `AudioLink.Event.title` — the name of an event in messages;
* `AudioLink.Outcome` — how the device answers a command.
-/
import AudioLink.Call.Basic
import AudioLink.Capabilities
import AudioLink.Codec.Config
import AudioLink.State

set_option relaxedAutoImplicit false
set_option autoImplicit false

namespace AudioLink

/-- What about the calls of a gateway an indicator speaks of. -/
inductive CallIndicator where
  | call
  | callSetup
  | callHeld
  | responseAndHold
  | callerId
  | callWaiting
  deriving DecidableEq, Repr

instance : Named CallIndicator where
  values := [.call, .callSetup, .callHeld, .responseAndHold, .callerId, .callWaiting]
  name
    | .call => "Call"
    | .callSetup => "CallSetup"
    | .callHeld => "CallHeld"
    | .responseAndHold => "ResponseAndHold"
    | .callerId => "CallerId"
    | .callWaiting => "CallWaiting"
  find_name a := by cases a <;> rfl

/-- What about the network and the battery of a gateway an indicator speaks of. -/
inductive NetworkIndicator where
  | serviceAvailable
  | roaming
  | signalStrength
  | batteryLevel
  deriving DecidableEq, Repr

instance : Named NetworkIndicator where
  values := [.serviceAvailable, .roaming, .signalStrength, .batteryLevel]
  name
    | .serviceAvailable => "ServiceAvailable"
    | .roaming => "Roaming"
    | .signalStrength => "SignalStrength"
    | .batteryLevel => "BatteryLevel"
  find_name a := by cases a <;> rfl

/-- What a volume belongs to. -/
inductive VolumeChannel where
  | speaker
  | microphone
  deriving DecidableEq, Repr

instance : Named VolumeChannel where
  values := [.speaker, .microphone]
  name
    | .speaker => "Speaker"
    | .microphone => "Microphone"
  find_name a := by cases a <;> rfl

/-- How a device answers a command. -/
inductive Outcome where
  | ok
  | error
  | noCarrier
  | busy
  | noAnswer
  | delayed
  | blacklisted
  /-- An error with a code beside it. -/
  | extendedError
  deriving DecidableEq, Repr

namespace Outcome

instance : Named Outcome where
  values := [ok, error, noCarrier, busy, noAnswer, delayed, blacklisted, extendedError]
  name
    | ok => "Ok"
    | error => "Error"
    | noCarrier => "NoCarrier"
    | busy => "Busy"
    | noAnswer => "NoAnswer"
    | delayed => "Delayed"
    | blacklisted => "Blacklisted"
    | extendedError => "CmeError"
  find_name a := by cases a <;> rfl

/-- Whether a command was carried out. -/
def isOk (o : Outcome) : Bool := o == ok

end Outcome

/-- One report of the transport about one device. -/
inductive Event where
  | linkChanged (state : LinkState) (capabilities : Capabilities)
  | audioChanged (report : AudioReport)
  | callIndicator (kind : CallIndicator) (value : Nat)
  | callListed (report : CallReport)
  | commandResult (outcome : Outcome) (code : Option Nat)
  | codecChanged (status : CodecStatus)
  | volumeChanged (channel : VolumeChannel) (level : Nat)
  | operatorName (name : String)
  | subscriberNumber (number : String)
  | networkIndicator (kind : NetworkIndicator) (value : Nat)
  | voiceRecognition (active : Bool)
  | inBandRing (enabled : Bool)
  deriving DecidableEq, Repr

namespace Event

/-- The link is gone, and nothing is known about the device any more. -/
def linkDown : Event := .linkChanged .disconnected .none

/-- The name of an event. -/
def title : Event → String
  | linkChanged .. => "ConnectionChanged"
  | audioChanged _ => "AudioChanged"
  | callIndicator .. => "CallIndicator"
  | callListed _ => "CallListEntry"
  | commandResult .. => "CommandResult"
  | codecChanged _ => "CodecConfigChanged"
  | volumeChanged .. => "VolumeChanged"
  | operatorName _ => "OperatorName"
  | subscriberNumber _ => "SubscriberInfo"
  | networkIndicator .. => "NetworkIndicator"
  | voiceRecognition _ => "VoiceRecognitionChanged"
  | inBandRing _ => "InBandRingChanged"

/-- Whether an event is about the link itself. -/
def isLinkChange : Event → Bool
  | linkChanged .. => true
  | _ => false

instance : Outlined Event where
  outline event := match event with
    | linkChanged state capabilities => .record event.title
        [.field "state" (Outlined.outline state),
          .field "capabilities" (Outlined.outline capabilities)]
    | audioChanged report => .record event.title [.field "state" (Outlined.outline report)]
    | callIndicator kind value => .record event.title
        [.field "kind" (Outlined.outline kind), .field "value" (.nat value)]
    | callListed report => .record event.title
        [.field "index" (.nat report.index),
          .field "direction" (Outlined.outline report.direction),
          .field "state" (Outlined.outline report.state),
          .field "multiparty" (.bool report.multiparty),
          .field "number" (.text report.number)]
    | commandResult outcome code => .record event.title
        [.field "outcome" (Outlined.outline outcome), .field "code" (.option .nat code)]
    | codecChanged status => .record event.title
        [.field "config" (Outlined.outline status.config),
          .field "selectable" (Outlined.outline status.selectable),
          .field "local_capabilities" (Outlined.outline status.localCapabilities)]
    | volumeChanged channel level => .record event.title
        [.field "channel" (Outlined.outline channel), .field "level" (.nat level)]
    | operatorName name => .tuple event.title [.text name]
    | subscriberNumber number => .tuple event.title [.text number]
    | networkIndicator kind value => .record event.title
        [.field "kind" (Outlined.outline kind), .field "value" (.nat value)]
    | voiceRecognition active => .record event.title [.field "active" (.bool active)]
    | inBandRing enabled => .record event.title [.field "enabled" (.bool enabled)]

end Event

end AudioLink
