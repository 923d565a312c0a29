/-
**What a device announces about itself.**

When the link comes up a device announces two sets of flags: the features it has, and the ways of
holding and releasing calls that it supports.

* `AudioLink.Capabilities` — both sets;
* `AudioLink.Capabilities.hasFeature`, `AudioLink.Capabilities.supportsCallHold` — whether all of
  some flags are announced.
-/
import AudioLink.Text.Outline

set_option relaxedAutoImplicit false
set_option autoImplicit false

namespace AudioLink

/-- The flags that a device announced. -/
structure Capabilities where
  features : UInt32
  /-- The supported ways of holding and releasing calls. -/
  callHold : UInt32
  deriving DecidableEq, Repr, Inhabited

namespace Capabilities

/-- No flags. -/
def none : Capabilities := ⟨0, 0⟩

/-- The gateway can turn off its echo cancelling and noise reduction. -/
def echoNoiseReduction : UInt32 := 0x0002

/-- The gateway understands spoken requests. -/
def voiceRecognition : UInt32 := 0x0004

/-- The gateway lists its calls when asked. -/
def enhancedCallStatus : UInt32 := 0x0040

/-- One call among several can be released. -/
def releaseSpecific : UInt32 := 0x04

/-- One member of a conference can be taken aside. -/
def privateConsultation : UInt32 := 0x10

/-- Two calls can be joined and left. -/
def mergeAndDetach : UInt32 := 0x40

/-- Whether all the given flags are among the features. -/
def hasFeature (c : Capabilities) (flags : UInt32) : Bool := c.features &&& flags == flags

/-- Whether all the given flags are among the ways of handling calls. -/
def supportsCallHold (c : Capabilities) (flags : UInt32) : Bool := c.callHold &&& flags == flags

instance : Outlined Capabilities where
  outline c := .record "PeerCapabilities"
    [.field "features" (.nat c.features.toNat), .field "call_hold" (.nat c.callHold.toNat)]

end Capabilities

end AudioLink
