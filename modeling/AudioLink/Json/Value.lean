/-
**Structured documents.**

Settings and values are exchanged as JSON documents.  This module holds what a document says once
it is read; how it was laid out is forgotten.  Two things are kept that a looser reading would
lose: whether a number was written as a whole number, and whether the escapes of a text made
sense, since both may stand where nobody looks but not where a value is expected.

* `AudioLink.Json` — a document;
* `AudioLink.Json.slots` — the parts of a record, given by name or by position.
-/

set_option relaxedAutoImplicit false
set_option autoImplicit false

namespace AudioLink

/-- A document. -/
inductive Json where
  | null
  | bool (b : Bool)
  /-- A number written with digits alone, and a minus sign before a number below zero. -/
  | int (n : Int)
  /-- A number with a fraction, an exponent, or a minus sign before zero. -/
  | real
  /-- A text, unless an escape in it names half a character. -/
  | text (content : Option String)
  | array (items : List Json)
  /-- Labels with their values, in order; a label is a text. -/
  | object (fields : List (Option String × Json))
  deriving Inhabited, Repr

namespace Json

/-- The text of a document that is one. -/
def text? : Json → Option String
  | text content => content
  | _ => none

/-- The number of a document that is a whole one within the bounds. -/
def intWithin? (low high : Int) : Json → Option Int
  | int n => if low ≤ n ∧ n ≤ high then some n else none
  | _ => none

/-- The number of a document that is a natural one below a bound. -/
def natBelow? (bound : Nat) : Json → Option Nat
  | int (.ofNat n) => if n < bound then some n else none
  | _ => none

/-- An object with proper labels. -/
def record (fields : List (String × Json)) : Json :=
  object (fields.map fun (label, value) => (some label, value))

/-! ### Records -/

/-- The labels of an object, as long as all of them are proper texts. -/
def labels? (fields : List (Option String × Json)) : Option (List String) :=
  fields.mapM (·.1)

/-- The value under a label. -/
def find? (fields : List (Option String × Json)) (label : String) : Option Json :=
  (fields.find? (·.1 == some label)).map (·.2)

/-- The parts of a record with the given labels, in their order.  A record is an object, in which
other labels are passed over and none of its own may come twice, or an array of its parts; a
`lenient` array may end early. -/
def slots (names : List String) (lenient : Bool) : Json → Option (List (Option Json))
  | object fields => do
      let labels ← labels? fields
      if names.all (labels.count · ≤ 1) then some (names.map (find? fields)) else none
  | array items =>
      if items.length = names.length ∨ lenient ∧ items.length < names.length then
        some (items.map some ++ List.replicate (names.length - items.length) none)
      else none
  | _ => none

end Json

end AudioLink
