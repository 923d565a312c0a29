/-
**Admission.**

A device may ask to be connected without having been called.  Whether it is let in depends on
what the user has said about it before.

* `AudioLink.Preferences` — what the user has said;
* `AudioLink.Preferences.refusal` — why a device is not let in, if it is not.
-/
import AudioLink.Address
import AudioLink.Codec.Preference
import AudioLink.Named

set_option relaxedAutoImplicit false
set_option autoImplicit false

namespace AudioLink

/-- How much a connection with a device is wanted. -/
inductive Priority where
  | undefined
  | off
  | on
  | autoConnect
  deriving DecidableEq, Repr, Inhabited

instance : Named Priority where
  values := [.undefined, .off, .on, .autoConnect]
  name
    | .undefined => "Undefined"
    | .off => "Off"
    | .on => "On"
    | .autoConnect => "AutoConnect"
  find_name a := by cases a <;> rfl

/-- What the user has said about devices and codecs. -/
structure Preferences where
  priority : Address → Priority
  bonded : Address → Bool
  /-- In quiet mode nobody is let in. -/
  quiet : Bool
  codecs : CodecPriorities

namespace Preferences

/-- Nothing has been said. -/
def empty : Preferences := ⟨fun _ => .undefined, fun _ => false, false, fun _ => none⟩

instance : Inhabited Preferences := ⟨empty⟩

/-- The priority of one device is set. -/
def setPriority (p : Preferences) (peer : Address) (priority : Priority) : Preferences :=
  { p with priority := fun a => if a = peer then priority else p.priority a }

/-- The bond with one device is made or broken. -/
def setBonded (p : Preferences) (peer : Address) (bonded : Bool) : Preferences :=
  { p with bonded := fun a => if a = peer then bonded else p.bonded a }

/-- The priority of one codec is set. -/
def setCodec (p : Preferences) (codec : Codec) (priority : Int) : Preferences :=
  { p with codecs := fun c => if c = codec then some priority else p.codecs c }

end Preferences

/-- Why a device is not let in. -/
inductive Refusal where
  | quietMode
  | priorityOff
  /-- Nothing was said about the device, and there is no bond with it. -/
  | unknownPeer
  deriving DecidableEq, Repr

namespace Refusal

instance : Named Refusal where
  values := [quietMode, priorityOff, unknownPeer]
  name
    | quietMode => "QuietMode"
    | priorityOff => "PriorityOff"
    | unknownPeer => "UnknownPeer"
  find_name a := by cases a <;> rfl

/-- The text of a reason. -/
def message : Refusal → String
  | quietMode => "quiet mode"
  | priorityOff => "priority off"
  | unknownPeer => "undefined priority without bond"

end Refusal

namespace Preferences

/-- Why a device is not let in, if it is not: quiet mode keeps everybody out, an explicit `off`
the device, and a device about which nothing was said needs a bond. -/
def refusal (p : Preferences) (peer : Address) : Option Refusal :=
  if p.quiet then some .quietMode
  else match p.priority peer with
    | .undefined => if p.bonded peer then none else some .unknownPeer
    | .off => some .priorityOff
    | .on | .autoConnect => none

/-- Whether a device is let in. -/
def admits (p : Preferences) (peer : Address) : Bool := (p.refusal peer).isNone

theorem admits_iff {p : Preferences} {peer : Address} :
    p.admits peer = true ↔ p.quiet = false ∧
      (p.priority peer = .on ∨ p.priority peer = .autoConnect ∨
        p.priority peer = .undefined ∧ p.bonded peer = true) := by
  unfold admits refusal
  cases p.quiet <;> cases p.priority peer <;> cases p.bonded peer <;> simp

end Preferences

end AudioLink
