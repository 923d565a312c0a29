/-
**What a user asks of a gateway, and what the gateway is asked for.**

A request says what the user wants.  An order is what was sent to the gateway on account of it, or
on the profile's own account; it is kept until the gateway answers, and says what the answer is
about.

* `AudioLink.Handsfree.Request` — the requests;
* `AudioLink.Handsfree.Order` — the orders;
* `AudioLink.Handsfree.Order.command` — the command that carries an order.
-/
import AudioLink.Command

set_option relaxedAutoImplicit false
set_option autoImplicit false

namespace AudioLink.Handsfree

/-- What a user may ask while the gateway is connected. -/
inductive Request where
  | dial (number : String)
  | accept (mode : AcceptMode)
  | reject
  | hold
  /-- End the ongoing call, or only the active call of the given number. -/
  | terminate (number : Option Nat)
  | privateMode (number : Nat)
  | transfer
  | sendTone (code : Char)
  | startVoiceRecognition
  | stopVoiceRecognition
  | setSpeakerVolume (level : Nat)
  | setMicrophoneVolume (level : Nat)
  | allowAudioRoute (allowed : Bool)
  | queryCalls
  | queryOperator
  deriving DecidableEq, Repr

instance : Outlined Request where
  outline
    | .dial number => .record "Dial" [.field "number" (.text number)]
    | .accept mode => .tuple "Accept" [Outlined.outline mode]
    | .reject => .word "Reject"
    | .hold => .word "Hold"
    | .terminate number => .record "Terminate" [.field "index" (.option .nat number)]
    | .privateMode number => .record "EnterPrivateMode" [.field "index" (.nat number)]
    | .transfer => .word "ExplicitCallTransfer"
    | .sendTone code => .tuple "SendDtmf" [.letter code]
    | .startVoiceRecognition => .word "StartVoiceRecognition"
    | .stopVoiceRecognition => .word "StopVoiceRecognition"
    | .setSpeakerVolume level => .tuple "SetSpeakerVolume" [.nat level]
    | .setMicrophoneVolume level => .tuple "SetMicVolume" [.nat level]
    | .allowAudioRoute allowed => .tuple "SetAudioRouteAllowed" [.bool allowed]
    | .queryCalls => .word "QueryCurrentCalls"
    | .queryOperator => .word "QueryOperatorName"

/-- What a gateway is asked for. -/
inductive Order where
  /-- Accept a call; a refused way of accepting may be retried in another way. -/
  | accept (action : CallControl) (mode : AcceptMode) (retried : Bool)
  | reject (action : CallControl)
  | hold (action : CallControl)
  | terminate (action : CallControl)
  | privateMode (number : Nat)
  | transfer
  | dial (number : String)
  | sendTone (code : Char)
  | queryCalls
  | queryOperator
  | querySubscriber
  | setVolume (channel : VolumeChannel) (level : Nat)
  | startVoiceRecognition
  | stopVoiceRecognition
  | disableNoiseReduction
  deriving DecidableEq, Repr

namespace Order

/-- The command that carries an order. -/
def command : Order → Command
  | accept action _ _ | reject action | hold action | terminate action => .call action
  | privateMode number => .call (.privateConsultation number)
  | transfer => .call .explicitTransfer
  | dial number => .dial number
  | sendTone code => .sendTone code
  | queryCalls => .queryCurrentCalls
  | queryOperator => .queryOperatorName
  | querySubscriber => .querySubscriberNumber
  | setVolume channel level => .setVolume channel level
  | startVoiceRecognition => .startVoiceRecognition
  | stopVoiceRecognition => .stopVoiceRecognition
  | disableNoiseReduction => .disableNoiseReduction

instance : Outlined Order where
  outline
    | accept action mode retried => .record "Accept"
        [.field "action" (Outlined.outline action), .field "mode" (Outlined.outline mode),
          .field "retried" (.bool retried)]
    | reject action => .tuple "Reject" [Outlined.outline action]
    | hold action => .tuple "Hold" [Outlined.outline action]
    | terminate action => .tuple "Terminate" [Outlined.outline action]
    | privateMode number => .tuple "EnterPrivateMode" [.nat number]
    | transfer => .word "ExplicitTransfer"
    | dial number => .record "Dial" [.field "number" (.text number)]
    | sendTone code => .tuple "SendDtmf" [.letter code]
    | queryCalls => .word "QueryCurrentCalls"
    | queryOperator => .word "QueryOperatorName"
    | querySubscriber => .word "SubscriberInfo"
    | setVolume channel level => .record "SetVolume"
        [.field "channel" (Outlined.outline channel), .field "level" (.nat level)]
    | startVoiceRecognition => .word "StartVoiceRecognition"
    | stopVoiceRecognition => .word "StopVoiceRecognition"
    | disableNoiseReduction => .word "DisableNrec"

/-- Asking for the list of calls is the only order carried by that command. -/
theorem command_eq_query_iff {order : Order} :
    order.command = .queryCurrentCalls ↔ order = queryCalls := by
  cases order <;> simp [command]

end Order

end AudioLink.Handsfree
