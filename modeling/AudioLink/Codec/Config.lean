/-
**Codec configurations.**

A configuration names a codec, how much it is wanted, and its audio parameters.  The parameters
are masks: the configuration in use has one bit in each, a capability may have several, and a mask
without bits leaves the parameter open.

* `AudioLink.Codec`, `AudioLink.Mask`, `AudioLink.CodecConfig` — the values;
* `AudioLink.CodecConfig.sameFeeding`, `AudioLink.CodecConfig.similar`,
  `AudioLink.CodecConfig.sameParameters` — three ways for two configurations to agree;
* `AudioLink.CodecStatus` — what is in use and what both sides can do;
* `AudioLink.CodecStatus.covers` — whether some capability allows a configuration.
-/
import AudioLink.Named
import AudioLink.Text.Digits

set_option relaxedAutoImplicit false
set_option autoImplicit false

namespace AudioLink

/-! ### Codecs -/

/-- The codecs that this side can encode. -/
inductive Codec where
  | sbc
  | aac
  | aptx
  | aptxHd
  | ldac
  deriving DecidableEq, Repr, Inhabited

namespace Codec

instance : Named Codec where
  values := [sbc, aac, aptx, aptxHd, ldac]
  name
    | sbc => "Sbc"
    | aac => "Aac"
    | aptx => "Aptx"
    | aptxHd => "AptxHd"
    | ldac => "Ldac"
  find_name a := by cases a <;> rfl

/-- The name shown to users. -/
def title : Codec → String
  | sbc => "SBC"
  | aac => "AAC"
  | aptx => "aptX"
  | aptxHd => "aptX HD"
  | ldac => "LDAC"

/-- The number of a codec in its table. -/
def number : Codec → Nat
  | sbc => 0
  | aac => 1
  | aptx => 2
  | aptxHd => 3
  | ldac => 4

/-- The codec every device supports; all others are optional. -/
def mandatory : Codec := sbc

/-- Whether a codec is the mandatory one. -/
def isMandatory (c : Codec) : Bool := c == mandatory

end Codec

/-! ### Masks -/

/-- A set of values of one audio parameter, a bit for each. -/
structure Mask where
  bits : UInt32
  deriving DecidableEq, Repr, Inhabited

namespace Mask

/-- The empty set leaves the parameter open. -/
def none : Mask := ⟨0⟩

/-- Whether a mask leaves the parameter open. -/
def isNone (m : Mask) : Bool := m.bits == 0

/-- Whether two masks have a value in common. -/
def intersects (a b : Mask) : Bool := a.bits &&& b.bits != 0

/-- All values of either mask. -/
def union (a b : Mask) : Mask := ⟨a.bits ||| b.bits⟩

/-- Two masks agree when they are equal or one of them leaves the parameter open. -/
def agrees (a b : Mask) : Bool := a.isNone || b.isNone || a == b

/-- Every value of a capability that `a` asks for suffices; an open parameter asks for nothing. -/
def allowedBy (a capability : Mask) : Bool := a.isNone || a.intersects capability

/-- How a mask of the named parameter is shown. -/
def outline (name : String) (m : Mask) : Outline := .tuple name [.nat m.bits.toNat]

/-- A mask in base sixteen. -/
def hex (m : Mask) : String := "0x" ++ Text.hexLower m.bits.toNat

@[simp] theorem agrees_self (m : Mask) : m.agrees m = true := by simp [agrees]

end Mask

/-! ### Configurations -/

/-- One codec configuration, a capability or the one in use. -/
structure CodecConfig where
  codec : Codec
  /-- The higher, the more wanted. -/
  priority : Int
  rate : Mask
  depth : Mask
  channels : Mask
  /-- Four numbers that only the codec itself understands. -/
  parameters : Vector Int 4
  deriving DecidableEq, Repr

namespace CodecConfig

/-- The numbers of a codec that has no use for them. -/
def noParameters : Vector Int 4 := #v[0, 0, 0, 0]

/-- A configuration that leaves its audio parameters open. -/
def plain (codec : Codec) (priority : Int) : CodecConfig :=
  ⟨codec, priority, .none, .none, .none, noParameters⟩

/-- Whether a configuration is one of the mandatory codec. -/
def isMandatory (c : CodecConfig) : Bool := c.codec.isMandatory

/-- The same sample rate, depth and channel mode: the encoder is fed alike. -/
def sameFeeding (a b : CodecConfig) : Bool :=
  a.rate == b.rate && a.depth == b.depth && a.channels == b.channels

/-- The same codec, and audio parameters that agree wherever both are given. -/
def similar (a b : CodecConfig) : Bool :=
  a.codec == b.codec && a.rate.agrees b.rate && a.depth.agrees b.depth &&
    a.channels.agrees b.channels

/-- The same codec with the same numbers of its own. -/
def sameParameters (a b : CodecConfig) : Bool :=
  a.codec == b.codec && a.parameters == b.parameters

/-- The text shown to users. -/
def render (c : CodecConfig) : String :=
  c.codec.title ++ " (priority " ++ toString c.priority ++ ", rate " ++ c.rate.hex ++
    ", bits " ++ c.depth.hex ++ ", channels " ++ c.channels.hex ++ ")"

instance : Outlined CodecConfig where
  outline c := .record "CodecConfig" [
    .field "codec_type" (Outlined.outline c.codec),
    .field "priority" (.int c.priority),
    .field "sample_rate" (c.rate.outline "SampleRate"),
    .field "bits_per_sample" (c.depth.outline "BitsPerSample"),
    .field "channel_mode" (c.channels.outline "ChannelMode"),
    .field "codec_specific" (.list (c.parameters.toList.map .int))]

@[simp] theorem sameFeeding_self (c : CodecConfig) : c.sameFeeding c = true := by
  simp [sameFeeding]

@[simp] theorem similar_self (c : CodecConfig) : c.similar c = true := by
  simp [similar]

@[simp] theorem sameParameters_self (c : CodecConfig) : c.sameParameters c = true := by
  simp [sameParameters]

end CodecConfig

/-! ### The status of a device -/

/-- The configuration in use and what it was chosen from. -/
structure CodecStatus where
  config : CodecConfig
  /-- What both sides can do. -/
  selectable : List CodecConfig
  /-- What this side can do. -/
  localCapabilities : List CodecConfig
  deriving DecidableEq, Repr

namespace CodecStatus

/-- The negotiation is complete once the mandatory codec can be selected. -/
def isComplete (s : CodecStatus) : Bool := s.selectable.any CodecConfig.isMandatory

/-- Whether a capability allows a configuration: the same codec, and a value in common wherever
the configuration asks for one. -/
def allows (capability config : CodecConfig) : Bool :=
  capability.codec == config.codec && config.rate.allowedBy capability.rate &&
    config.depth.allowedBy capability.depth && config.channels.allowedBy capability.channels

/-- Whether some capability allows a configuration. -/
def covers (s : CodecStatus) (config : CodecConfig) : Bool :=
  s.selectable.any (allows · config)

instance : Outlined CodecStatus where
  outline s := .record "CodecStatus" [
    .field "config" (Outlined.outline s.config),
    .field "selectable" (Outlined.outline s.selectable),
    .field "local_capabilities" (Outlined.outline s.localCapabilities)]

end CodecStatus

end AudioLink
