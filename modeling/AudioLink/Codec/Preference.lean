/-
**Choosing a codec.**

The device and this side agree on a list of selectable configurations.  A user may ask for one of
them, or switch the optional codecs on or off as a whole; what is sent to the device is a list of
configurations with priorities.

* `AudioLink.CodecConfig.preferred` — the codec with the highest priority;
* `AudioLink.CodecConfig.decision` — what becomes of a request for one configuration;
* `AudioLink.CodecTable` — the priorities assigned last, and the lists built from them.
-/
import AudioLink.Codec.Config

set_option relaxedAutoImplicit false
set_option autoImplicit false

namespace AudioLink

/-! ### One configuration -/

namespace CodecConfig

/-- The better of the best so far and the next candidate: the higher priority wins, and of two
equal ones the codec in use; otherwise the earlier is kept. -/
def better (active : Option Codec) (best next : CodecConfig) : CodecConfig :=
  if best.priority < next.priority then next
  else if next.priority = best.priority ∧ active = some next.codec ∧ active ≠ some best.codec
  then next
  else best

/-- The codec of the highest priority among a candidate and the selectable configurations. -/
def preferred (candidate : CodecConfig) (selectable : List CodecConfig) (active : Option Codec) :
    Codec :=
  (selectable.foldl (better active) candidate).codec

/-- What becomes of a request for a configuration. -/
inductive Decision where
  /-- These configurations are sent to the device. -/
  | apply (configs : List CodecConfig)
  /-- What is in use already satisfies the request. -/
  | unchanged
  /-- The mandatory codec cannot be selected yet. -/
  | incomplete
  /-- The device cannot use the configuration. -/
  | notSelectable
  deriving DecidableEq, Repr

/-- A request is for nothing new when another codec stays preferred, or when the codec in use is
asked for with parameters that agree with those in use. -/
def isSatisfiedBy (wanted : CodecConfig) (status : CodecStatus) : Bool :=
  let preferredCodec := wanted.preferred status.selectable (some status.config.codec)
  preferredCodec == status.config.codec &&
    (preferredCodec != wanted.codec ||
      (status.config.similar wanted && status.config.sameParameters wanted))

/-- The decision on a request, given what the device last reported. -/
def decision (wanted : CodecConfig) : Option CodecStatus → Decision
  | none => .incomplete
  | some status =>
      if !status.isComplete then .incomplete
      else if !status.covers wanted then .notSelectable
      else if wanted.isSatisfiedBy status then .unchanged
      else .apply [wanted]

/-- A new configuration means new feeding parameters unless the previous one had the same. -/
def needsReroute (previous : Option CodecConfig) (current : CodecConfig) : Bool :=
  match previous with
  | none => true
  | some previous => !previous.sameFeeding current

end CodecConfig

/-! ### All codecs at once -/

/-- The priority that a user gave to each codec, where there is one. -/
abbrev CodecPriorities := Codec → Option Int

/-- The configurations whose priorities were assigned last. -/
structure CodecTable where
  assigned : List CodecConfig
  deriving DecidableEq, Repr

namespace CodecTable

/-- Nothing is assigned at first. -/
def empty : CodecTable := ⟨[]⟩

/-- The priority of a disabled codec, the lowest a user can give. -/
def disabled : Int := -1

/-- The priority above all that a user can give. -/
def highest : Int := 1000000

/-- The priority a codec is assigned: what the user gave it if that is within bounds, and zero
otherwise. -/
def usable (given : Option Int) : Int :=
  match given with
  | some p => if disabled ≤ p ∧ p < highest then p else 0
  | none => 0

/-- One configuration for each codec, in table order. -/
def build (priorities : CodecPriorities) : List CodecConfig :=
  (Named.values (α := Codec)).map fun codec => .plain codec (usable (priorities codec))

/-- The mandatory codec raised above all others. -/
def raiseMandatory (configs : List CodecConfig) : List CodecConfig :=
  configs.map fun c => if c.isMandatory then { c with priority := highest } else c

/-- Switching the optional codecs on: the table is built anew and its optional part is the list
to send.  Nothing is done while an optional codec is in use. -/
def enableOptional (table : CodecTable) (priorities : CodecPriorities)
    (current : Option CodecConfig) : Option (List CodecConfig) × CodecTable :=
  if current.any (!·.isMandatory) then (none, table)
  else
    let assigned := build priorities
    (some (assigned.filter (!·.isMandatory)), ⟨assigned⟩)

/-- Switching the optional codecs off: the table is built anew with the mandatory codec raised,
and that one is the list to send.  Nothing is done while the mandatory codec is in use. -/
def disableOptional (table : CodecTable) (priorities : CodecPriorities)
    (current : Option CodecConfig) : Option (List CodecConfig) × CodecTable :=
  if current.any (·.isMandatory) then (none, table)
  else
    let assigned := raiseMandatory (build priorities)
    (some (assigned.filter (·.isMandatory)), ⟨assigned⟩)

/-- Assigned priorities are within the bounds. -/
theorem usable_bounds (given : Option Int) : disabled ≤ usable given ∧ usable given < highest := by
  unfold usable
  split
  · split
    · assumption
    · decide
  · decide

end CodecTable

end AudioLink
