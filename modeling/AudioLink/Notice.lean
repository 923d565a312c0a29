/-
**What is announced, and what leaves a link.**

A link announces what happens on it to whoever listens.  Part of the announcements is common to
all links; the rest is made by the profile.  Together with the requests to the transport they are
all that ever leaves a link.

* `AudioLink.Report` — the announcements of a profile;
* `AudioLink.Notice` — all announcements;
* `AudioLink.Effect` — announcements and requests to the transport, in the order in which they
  leave; a request is kept together with the transport's answer.
-/
import AudioLink.Command
import AudioLink.Fault

set_option relaxedAutoImplicit false
set_option autoImplicit false

namespace AudioLink

/-- What the platform has to do about the sound. -/
inductive RouteUpdate where
  /-- The sound of calls goes over the audio link at this rate. -/
  | callsEnabled (rateHz : Nat)
  | callsDisabled
  /-- The media path starts anew with these feeding parameters. -/
  | streamReconfigured (config : CodecConfig)
  deriving DecidableEq, Repr

/-- A fact about the gateway. -/
inductive GatewayInfo where
  | operatorName (name : Option String)
  | subscriberNumber (number : String)
  | networkService (available : Bool)
  | roaming (active : Bool)
  | signalStrength (value : Nat)
  | batteryLevel (value : Nat)
  | voiceRecognition (active : Bool)
  | inBandRing (enabled : Bool)
  deriving DecidableEq, Repr

/-- What a profile announces. -/
inductive Report where
  | callChanged (call : Call)
  | codecChanged (status : CodecStatus)
  | commandResult (outcome : Outcome) (code : Option Nat)
  | audioRoute (update : RouteUpdate)
  | gatewayInfo (info : GatewayInfo)
  | volumeChanged (channel : VolumeChannel) (level : Nat)
  | playingChanged (playing : Bool)
  deriving DecidableEq, Repr

/-- What a link announces. -/
inductive Notice where
  | linkChanged (previous current : LinkState)
  /-- Whether speech is wideband is told whenever the audio is on. -/
  | audioChanged (previous current : AudioState) (wideband : Option Bool)
  | requestFailed (fault : Fault)
  | report (report : Report)
  deriving DecidableEq

/-- What leaves a link. -/
inductive Effect where
  /-- A request to the transport, and whether it was taken. -/
  | call (request : Outgoing) (accepted : Bool)
  | notice (notice : Notice)
  deriving DecidableEq

/-- How a transport answers: each request is taken or refused, in view of all that has left the
link before it. -/
abbrev Transport := List Effect → Outgoing → Bool

end AudioLink
