/-
**Settings.**

The bounds and switches that links are run with.  Every field has a default that suits most
devices, so that the default settings are complete.

* `AudioLink.StreamSettings`, `AudioLink.HandsfreeSettings`, `AudioLink.LogSettings` — the parts;
* `AudioLink.Settings` — all of them, with the room in the inbox of each worker.
-/
import AudioLink.Call.Control
import AudioLink.Time

set_option relaxedAutoImplicit false
set_option autoImplicit false

namespace AudioLink

/-- The settings of streaming. -/
structure StreamSettings where
  /-- The bound on connecting and disconnecting, in milliseconds. -/
  connectTimeoutMs : Nat
  deriving DecidableEq, Repr

namespace StreamSettings

/-- Streaming devices have half a minute. -/
def standard : StreamSettings := ⟨30000⟩

/-- The bound on connecting and disconnecting. -/
def connectTimeout (s : StreamSettings) : Duration := .ofMillis s.connectTimeoutMs

end StreamSettings

/-- The settings of telephony. -/
structure HandsfreeSettings where
  /-- The bound on connecting and disconnecting, in milliseconds. -/
  connectTimeoutMs : Nat
  /-- How often the list of calls is asked for while there are calls, and the least time between
  two such questions, in milliseconds. -/
  pollIntervalMs : Nat
  /-- How long a call dialled here may stay unlisted, in milliseconds. -/
  outgoingTimeoutMs : Nat
  /-- Gateways that cannot list their calls are turned down. -/
  requireCallStatus : Bool
  /-- Gateways that can are asked to turn off echo cancelling and noise reduction. -/
  disableNoiseReduction : Bool
  /-- Whether the sound of calls may come here, to begin with. -/
  audioRouteAllowed : Bool
  /-- What is tried when accepting a call is refused. -/
  acceptRetry : AcceptRetry
  deriving DecidableEq, Repr

namespace HandsfreeSettings

/-- The settings that suit most gateways. -/
def standard : HandsfreeSettings := ⟨10000, 2000, 10000, true, true, true, .standard⟩

/-- The bound on connecting and disconnecting. -/
def connectTimeout (s : HandsfreeSettings) : Duration := .ofMillis s.connectTimeoutMs

/-- The time between two questions about the calls. -/
def pollInterval (s : HandsfreeSettings) : Duration := .ofMillis s.pollIntervalMs

/-- How long a call dialled here may stay unlisted. -/
def outgoingTimeout (s : HandsfreeSettings) : Duration := .ofMillis s.outgoingTimeoutMs

end HandsfreeSettings

/-- What is logged, and how. -/
structure LogSettings where
  /-- Which messages are kept. -/
  filter : String
  /-- One object per line instead of plain text. -/
  json : Bool
  /-- Whether the start and the end of a worker are logged as well. -/
  peerSpans : Bool
  deriving DecidableEq, Repr

namespace LogSettings

/-- Plain lines about what this library does, in moderate detail. -/
def standard : LogSettings := ⟨"btaudio_profile_core=info", false, false⟩

end LogSettings

/-- All settings. -/
structure Settings where
  stream : StreamSettings
  handsfree : HandsfreeSettings
  /-- How many items may wait for one worker. -/
  inboxCapacity : Nat
  log : LogSettings
  deriving DecidableEq, Repr

namespace Settings

/-- The default settings. -/
def standard : Settings := ⟨.standard, .standard, 256, .standard⟩

end Settings

/-! ### How settings are shown -/

instance : Outlined StreamSettings where
  outline s := .record "A2dpConfig" [.field "connect_timeout_ms" (.nat s.connectTimeoutMs)]

instance : Outlined HandsfreeSettings where
  outline s := .record "HfpClientConfig"
    [.field "connect_timeout_ms" (.nat s.connectTimeoutMs),
      .field "call_poll_interval_ms" (.nat s.pollIntervalMs),
      .field "outgoing_call_timeout_ms" (.nat s.outgoingTimeoutMs),
      .field "require_enhanced_call_status" (.bool s.requireCallStatus),
      .field "disable_nrec" (.bool s.disableNoiseReduction),
      .field "audio_route_allowed" (.bool s.audioRouteAllowed),
      .field "accept_retry" (Outlined.outline s.acceptRetry)]

instance : Outlined LogSettings where
  outline s := .record "LoggingConfig"
    [.field "filter" (.text s.filter), .field "json" (.bool s.json),
      .field "peer_spans" (.bool s.peerSpans)]

instance : Outlined Settings where
  outline s := .record "ProfileConfig"
    [.field "a2dp" (Outlined.outline s.stream), .field "hfp_client" (Outlined.outline s.handsfree),
      .field "inbox_capacity" (.nat s.inboxCapacity), .field "logging" (Outlined.outline s.log)]

end AudioLink
