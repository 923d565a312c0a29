/-
**The written forms of what goes into a link and comes out of it.**

What a link is fed and what leaves it can be recorded as documents.  Events and requests are read,
with a `type` that tells them apart; parts that are zero or empty may be left out.  Commands and
announcements are written; a call is written with a number that stands for its handle.

* `AudioLink.Json.event?`, `AudioLink.Json.streamRequest?`, `AudioLink.Json.handsfreeRequest?` —
  what goes in;
* `AudioLink.Effect.handles`, `AudioLink.Effect.toJson` — what comes out.
-/
import AudioLink.Handsfree.Order
import AudioLink.Json.Forms
import AudioLink.Notice
import AudioLink.Stream

set_option relaxedAutoImplicit false
set_option autoImplicit false

namespace AudioLink

namespace Json

/-! ### Reading -/

/-- A codec configuration in which zeros may be left out. -/
def codecConfig? (json : Json) : Option CodecConfig := do
  let parameters ← match json.get? "codec_specific" with
    | some parameters => parameters? parameters
    | none => some CodecConfig.noParameters
  return ⟨← json.read? "codec_type", ← json.readOr "priority" 0, ← json.readOr "sample_rate" .none,
    ← json.readOr "bits_per_sample" .none, ← json.readOr "channel_mode" .none, parameters⟩

/-- A list of codec configurations, which may be missing. -/
def codecConfigs? (json : Json) (label : String) : Option (List CodecConfig) :=
  match json.get? label with
  | some (array items) => items.mapM codecConfig?
  | some _ => none
  | none => some []

/-- A codec status. -/
def codecStatus? (json : Json) : Option CodecStatus := do
  return ⟨← (← json.get? "config").codecConfig?, ← json.codecConfigs? "selectable",
    ← json.codecConfigs? "local_capabilities"⟩

/-- What a gateway says about one of its calls. -/
def callReport? (json : Json) : Option CallReport := do
  return {
    index := ← json.read? "index"
    direction := ← json.readOr "direction" .incoming
    state := ← json.read? "state"
    multiparty := ← json.readOr "multiparty" false
    number := ← json.readOr "number" "" }

/-- An event. -/
def event? (json : Json) : Option Event := do
  match (← json.read? "type" : String) with
  | "ConnectionChanged" =>
      return .linkChanged (← json.read? "state")
        ⟨← json.readOr "features" 0, ← json.readOr "call_hold" 0⟩
  | "AudioChanged" => return .audioChanged (← json.read? "state")
  | "CallIndicator" => return .callIndicator (← json.read? "kind") (← json.read? "value")
  | "CallListEntry" => return .callListed (← json.callReport?)
  | "CommandResult" => return .commandResult (← json.read? "outcome") (← json.readIf "code")
  | "CodecConfigChanged" => return .codecChanged (← json.codecStatus?)
  | "VolumeChanged" => return .volumeChanged (← json.read? "channel") (← json.read? "level")
  | "OperatorName" => return .operatorName (← json.read? "name")
  | "SubscriberInfo" => return .subscriberNumber (← json.read? "number")
  | "NetworkIndicator" => return .networkIndicator (← json.read? "kind") (← json.read? "value")
  | "VoiceRecognitionChanged" => return .voiceRecognition (← json.read? "active")
  | "InBandRingChanged" => return .inBandRing (← json.read? "enabled")
  | _ => none

/-- A request to a streaming device. -/
def streamRequest? (json : Json) : Option Stream.Request := do
  match (← json.read? "type" : String) with
  | "SetCodecPreference" => return .preferCodec (← (← json.get? "config").codecConfig?)
  | "EnableOptionalCodecs" => return .enableOptional
  | "DisableOptionalCodecs" => return .disableOptional
  | _ => none

/-- A request to a gateway. -/
def handsfreeRequest? (json : Json) : Option Handsfree.Request := do
  match (← json.read? "type" : String) with
  | "Dial" => return .dial (← json.read? "number")
  | "Accept" => return .accept (← json.read? "mode")
  | "Reject" => return .reject
  | "Hold" => return .hold
  | "Terminate" => return .terminate (← json.readIf "index")
  | "EnterPrivateMode" => return .privateMode (← json.read? "index")
  | "ExplicitCallTransfer" => return .transfer
  | "SendDtmf" => return .sendTone (← json.read? "code")
  | "StartVoiceRecognition" => return .startVoiceRecognition
  | "StopVoiceRecognition" => return .stopVoiceRecognition
  | "SetSpeakerVolume" => return .setSpeakerVolume (← json.read? "level")
  | "SetMicVolume" => return .setMicrophoneVolume (← json.read? "level")
  | "SetAudioRouteAllowed" => return .allowAudioRoute (← json.read? "allowed")
  | "QueryCurrentCalls" => return .queryCalls
  | "QueryOperatorName" => return .queryOperator
  | _ => none

/-- An order to a gateway. -/
def order? (json : Json) : Option Handsfree.Order := do
  match (← json.read? "type" : String) with
  | "Accept" =>
      return .accept (← json.read? "action") (← json.read? "mode") (← json.read? "retried")
  | "Reject" => return .reject (← json.read? "action")
  | "Hold" => return .hold (← json.read? "action")
  | "Terminate" => return .terminate (← json.read? "action")
  | "EnterPrivateMode" => return .privateMode (← json.read? "index")
  | "ExplicitTransfer" => return .transfer
  | "Dial" => return .dial (← json.read? "number")
  | "SendDtmf" => return .sendTone (← json.read? "code")
  | "QueryCurrentCalls" => return .queryCalls
  | "QueryOperatorName" => return .queryOperator
  | "SubscriberInfo" => return .querySubscriber
  | "SetVolume" => return .setVolume (← json.read? "channel") (← json.read? "level")
  | "StartVoiceRecognition" => return .startVoiceRecognition
  | "StopVoiceRecognition" => return .stopVoiceRecognition
  | "DisableNrec" => return .disableNoiseReduction
  | _ => none

/-! ### Writing -/

/-- An object with a type. -/
def typed (name : String) (fields : List (String × Json)) : Json :=
  record (("type", encode name) :: fields)

end Json

open Json (encode record typed)

/-- A command. -/
def Command.toJson (c : Command) : Json :=
  typed c.title <| match c with
    | .dial number => [("number", encode number)]
    | .call action => [("action", encode action), ("code", encode action.code)]
    | .setVolume channel level => [("channel", encode channel), ("level", encode level)]
    | .sendTone code => [("code", encode code)]
    | .preferCodecs configs => [("configs", encode configs)]
    | _ => []

/-- An order to a gateway. -/
def Handsfree.Order.toJson : Handsfree.Order → Json
  | .accept action mode retried => typed "Accept"
      [("action", encode action), ("mode", encode mode), ("retried", encode retried)]
  | .reject action => typed "Reject" [("action", encode action)]
  | .hold action => typed "Hold" [("action", encode action)]
  | .terminate action => typed "Terminate" [("action", encode action)]
  | .privateMode number => typed "EnterPrivateMode" [("index", encode number)]
  | .transfer => typed "ExplicitTransfer" []
  | .dial number => typed "Dial" [("number", encode number)]
  | .sendTone code => typed "SendDtmf" [("code", encode code)]
  | .queryCalls => typed "QueryCurrentCalls" []
  | .queryOperator => typed "QueryOperatorName" []
  | .querySubscriber => typed "SubscriberInfo" []
  | .setVolume channel level =>
      typed "SetVolume" [("channel", encode channel), ("level", encode level)]
  | .startVoiceRecognition => typed "StartVoiceRecognition" []
  | .stopVoiceRecognition => typed "StopVoiceRecognition" []
  | .disableNoiseReduction => typed "DisableNrec" []

/-- A fault, by its kind and its text. -/
def Fault.toJson (f : Fault) : Json :=
  record [("error", encode f.kind), ("message", encode f.message)]

/-- The index of a call. -/
def CallIndex.toJson : CallIndex → Json
  | .localOrigin => encode "local"
  | .peer number => encode number

/-- A call; `label` numbers the handles. -/
def Call.toJson (label : CallHandle → Nat) (c : Call) : Json :=
  record
    [("index", c.index.toJson), ("handle", encode (label c.handle)), ("state", encode c.state),
      ("number", encode c.number), ("multiparty", encode c.multiparty),
      ("direction", encode c.direction), ("created", encode (Nat.repr c.createdAt))]

/-- A fact about a gateway, by its name and its value. -/
def GatewayInfo.toJson : GatewayInfo → Json
  | .operatorName name => info "OperatorName" (encode name)
  | .subscriberNumber number => info "SubscriberNumber" (encode number)
  | .networkService available => info "NetworkService" (encode available)
  | .roaming active => info "Roaming" (encode active)
  | .signalStrength value => info "SignalStrength" (encode value)
  | .batteryLevel value => info "BatteryLevel" (encode value)
  | .voiceRecognition active => info "VoiceRecognition" (encode active)
  | .inBandRing enabled => info "InBandRing" (encode enabled)
where
  /-- The common form. -/
  info (name : String) (value : Json) : Json :=
    typed "PeerInfo" [("info", encode name), ("value", value)]

/-- What has to be done about the sound. -/
def RouteUpdate.toJson : RouteUpdate → Json
  | .callsEnabled rate =>
      typed "AudioRoute" [("update", encode "HfpEnabled"), ("sample_rate_hz", encode rate)]
  | .callsDisabled => typed "AudioRoute" [("update", encode "HfpDisabled")]
  | .streamReconfigured config =>
      typed "AudioRoute" [("update", encode "A2dpReconfigure"), ("config", encode config)]

/-- What a profile announces. -/
def Report.toJson (label : CallHandle → Nat) (profile : Profile) : Report → Json
  | .callChanged call => typed "CallChanged" [("call", call.toJson label)]
  | .codecChanged status => typed "CodecConfigChanged" [("status", encode status)]
  | .commandResult outcome code => typed "CommandResult"
      [("profile", encode profile.title), ("outcome", encode outcome), ("code", encode code)]
  | .audioRoute update => update.toJson
  | .gatewayInfo info => info.toJson
  | .volumeChanged channel level =>
      typed "VolumeChanged" [("channel", encode channel), ("level", encode level)]
  | .playingChanged playing => typed "PlayingStateChanged" [("playing", encode playing)]

/-- What a link announces. -/
def Notice.toJson (label : CallHandle → Nat) (profile : Profile) : Notice → Json
  | .linkChanged previous current => typed "ConnectionStateChanged"
      [("profile", encode profile.title), ("previous", encode previous),
        ("current", encode current)]
  | .audioChanged previous current wideband => typed "AudioStateChanged"
      [("profile", encode profile.title), ("previous", encode previous),
        ("current", encode current), ("wideband", encode wideband)]
  | .requestFailed fault => typed "RequestFailed"
      [("profile", encode profile.title), ("error", encode fault.kind),
        ("message", encode fault.message)]
  | .report told => told.toJson label profile

/-- The handle of the call that an effect announces. -/
def Effect.handles : Effect → List CallHandle
  | .notice (.report (.callChanged changed)) => [changed.handle]
  | _ => []

/-- What leaves a link. -/
def Effect.toJson (label : CallHandle → Nat) (profile : Profile) : Effect → Json
  | .call .connect _ => record [("call", encode "connect")]
  | .call .disconnect _ => record [("call", encode "disconnect")]
  | .call (.command c) _ => record [("call", encode "command"), ("command", c.toJson)]
  | .notice told => record [("event", told.toJson label profile)]

end AudioLink
