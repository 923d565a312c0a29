/-
**The observable state of a link.**

One remote device is connected, or on its way to being connected or disconnected; while it is
connected its audio may be on.  The names of the states are part of every notification.

* `AudioLink.LinkState`, `AudioLink.AudioState` — the two states;
* `AudioLink.AudioReport` — what the transport says about the audio link;
* `AudioLink.Profile` — what the link is used for;
* `AudioLink.Snapshot` — both states at one moment.
-/
import AudioLink.Named

set_option relaxedAutoImplicit false
set_option autoImplicit false

namespace AudioLink

/-- The life of the link to one device, also as the transport reports it. -/
inductive LinkState where
  | disconnected
  | connecting
  | connected
  | disconnecting
  deriving DecidableEq, Repr, Inhabited

namespace LinkState

instance : Named LinkState where
  values := [disconnected, connecting, connected, disconnecting]
  name
    | disconnected => "Disconnected"
    | connecting => "Connecting"
    | connected => "Connected"
    | disconnecting => "Disconnecting"
  find_name a := by cases a <;> rfl

/-- A stable state lasts until something happens; the other two are bounded in time. -/
def isStable : LinkState → Bool
  | disconnected | connected => true
  | connecting | disconnecting => false

end LinkState

/-- The audio of a connected device. -/
inductive AudioState where
  | off
  | connecting
  | on
  deriving DecidableEq, Repr, Inhabited

instance : Named AudioState where
  values := [.off, .connecting, .on]
  name
    | .off => "AudioOff"
    | .connecting => "AudioConnecting"
    | .on => "AudioOn"
  find_name a := by cases a <;> rfl

/-- The audio link as the transport reports it.  A stream that the device suspended is off. -/
inductive AudioReport where
  | disconnected
  | connecting
  | connected
  | connectedWideband
  | suspended
  deriving DecidableEq, Repr

namespace AudioReport

instance : Named AudioReport where
  values := [disconnected, connecting, connected, connectedWideband, suspended]
  name
    | disconnected => "Disconnected"
    | connecting => "Connecting"
    | connected => "Connected"
    | connectedWideband => "ConnectedWideband"
    | suspended => "Suspended"
  find_name a := by cases a <;> rfl

/-- The audio state a report stands for. -/
def audio : AudioReport → AudioState
  | disconnected | suspended => .off
  | connecting => .connecting
  | connected | connectedWideband => .on

/-- Whether a report announces wideband speech. -/
def wideband : AudioReport → Bool
  | connectedWideband => true
  | disconnected | connecting | connected | suspended => false

end AudioReport

/-- What a link is used for. -/
inductive Profile where
  /-- Streaming to the device; this side is the source. -/
  | stream
  /-- Telephony through the device; this side is the handsfree unit. -/
  | handsfree
  deriving DecidableEq, Repr

namespace Profile

instance : Named Profile where
  values := [stream, handsfree]
  name
    | stream => "A2dp"
    | handsfree => "HandsfreeClient"
  find_name a := by cases a <;> rfl

/-- The name shown to users. -/
def title : Profile → String
  | stream => "A2DP"
  | handsfree => "HFP-client"

end Profile

/-- Link and audio at one moment. -/
structure Snapshot where
  link : LinkState
  audio : AudioState
  deriving DecidableEq, Repr

instance : Outlined Snapshot :=
  ⟨fun s => .record "PeerSnapshot"
    [.field "connection" (Outlined.outline s.link), .field "audio" (Outlined.outline s.audio)]⟩

end AudioLink
