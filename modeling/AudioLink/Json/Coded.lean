/-
**Values in documents.**

How values are written in a document and read from one.  Reading is the stricter part: a number
has to be a whole one within its bounds, a name one of those known, and a record complete, unless
its type says what a missing part means.

* `AudioLink.Json.Coded` — the types whose values are written and read;
* `AudioLink.Json.required`, `AudioLink.Json.optional`, `AudioLink.Json.orElse` — the three ways
  to read a part of a record that may be missing;
* `AudioLink.Json.read?`, `AudioLink.Json.readOr`, `AudioLink.Json.readIf` — the same for objects
  in which anything else may stand as well;
* `AudioLink.Json.unitName?`, `AudioLink.Json.numbered?` — the two forms of a tagged value.
-/
import AudioLink.Json.Value
import AudioLink.Named

set_option relaxedAutoImplicit false
set_option autoImplicit false

namespace AudioLink.Json

/-- A type whose values are written in documents. -/
class Coded (α : Type) where
  /-- How a value is written. -/
  encode : α → Json
  /-- The value that a document stands for. -/
  decode? : Json → Option α

export Coded (encode decode?)

/-! ### Parts of records -/

variable {α : Type} [Coded α]

/-- A part that has to be there. -/
def required (part : Option Json) : Option α := part.bind decode?

/-- A part that has a default. -/
def orElse (default : α) : Option Json → Option α
  | none => some default
  | some json => decode? json

/-- A part that may be missing or `null`. -/
def optional : Option Json → Option (Option α)
  | none | some .null => some none
  | some json => (decode? json).map some

/-! ### Loosely written objects -/

/-- The value under a label of an object, unless it is missing or `null`. -/
def get? : Json → String → Option Json
  | object fields, label => (find? fields label).filter fun
      | null => false
      | _ => true
  | _, _ => none

/-- What an object holds under a label, which has to be there. -/
def read? (json : Json) (label : String) : Option α := (json.get? label).bind decode?

/-- What an object holds under a label, or a default. -/
def readOr (json : Json) (label : String) (default : α) : Option α :=
  orElse default (json.get? label)

/-- What an object may hold under a label. -/
def readIf (json : Json) (label : String) : Option (Option α) := optional (json.get? label)

/-! ### Tagged values -/

/-- The name of a value without further parts: a text, or the label of a `null`. -/
def unitName? : Json → Option String
  | text content => content
  | object [(label, null)] => label
  | _ => none

/-- The name and the number of a value with a number below a bound. -/
def numbered? (bound : Nat) : Json → Option (String × Nat)
  | object [(some label, value)] => (value.natBelow? bound).map fun n => (label, n)
  | _ => none

/-! ### Simple values -/

instance : Coded Bool where
  encode := bool
  decode?
    | bool b => some b
    | _ => none

instance : Coded String where
  encode s := text (some s)
  decode? := text?

instance (priority := low) {α : Type} [Named α] : Coded α where
  encode a := text (some (Named.name a))
  decode? json := json.unitName?.bind Named.ofName?

/-- A natural number of any size. -/
instance : Coded Nat where
  encode n := int n
  decode?
    | int (.ofNat n) => some n
    | _ => none

/-- A whole number of any size. -/
instance : Coded Int where
  encode := int
  decode?
    | int n => some n
    | _ => none

/-- A character is a text of its own. -/
instance : Coded Char where
  encode c := text (some c.toString)
  decode? json := do
    let [c] := (← json.text?).toList | none
    return c

instance : Coded UInt8 where
  encode n := int n.toNat
  decode? json := (json.natBelow? UInt8.size).map UInt8.ofNat

instance : Coded UInt32 where
  encode n := int n.toNat
  decode? json := (json.natBelow? UInt32.size).map UInt32.ofNat

instance {α : Type} [Coded α] : Coded (List α) where
  encode items := array (items.map encode)
  decode?
    | array items => items.mapM decode?
    | _ => none

instance {α : Type} [Coded α] : Coded (Option α) where
  encode
    | some a => encode a
    | none => null
  decode? json := optional (some json)

end AudioLink.Json
