/-
**Reading a document.**

The tokens of a document are put together again with a stack of the arrays and objects that are
open.  A document may be nested to any depth.

* `AudioLink.Json.Open` — an array or object that is not closed yet;
* `AudioLink.Json.readValue`, `AudioLink.Json.readAfter` — the two situations of a reader: before
  a value and after one;
* `AudioLink.Json.parse?` — the document that a text holds.
-/
import AudioLink.Json.Token
import AudioLink.Json.Value

set_option relaxedAutoImplicit false
set_option autoImplicit false

namespace AudioLink.Json

/-- What is open around a value; parts are kept with the last in front. -/
inductive Open where
  | array (items : List Json)
  /-- An object whose next value goes under `label`. -/
  | object (fields : List (Option String × Json)) (label : Option String)

mutual

/-- A value comes next. -/
def readValue : List Token → List Open → Option Json
  | .null :: rest, around => readAfter .null rest around
  | .bool b :: rest, around => readAfter (.bool b) rest around
  | .int n :: rest, around => readAfter (.int n) rest around
  | .real :: rest, around => readAfter .real rest around
  | .text content :: rest, around => readAfter (.text content) rest around
  | .openBracket :: .closeBracket :: rest, around => readAfter (.array []) rest around
  | .openBracket :: rest, around => readValue rest (.array [] :: around)
  | .openBrace :: .closeBrace :: rest, around => readAfter (.object []) rest around
  | .openBrace :: .text label :: .colon :: rest, around =>
      readValue rest (.object [] label :: around)
  | _, _ => none

/-- A value was read; it goes into what is open, or is the whole document. -/
def readAfter (value : Json) : List Token → List Open → Option Json
  | [], [] => some value
  | .comma :: rest, .array items :: around => readValue rest (.array (value :: items) :: around)
  | .closeBracket :: rest, .array items :: around =>
      readAfter (.array (value :: items).reverse) rest around
  | .comma :: .text next :: .colon :: rest, .object fields label :: around =>
      readValue rest (.object ((label, value) :: fields) next :: around)
  | .closeBrace :: rest, .object fields label :: around =>
      readAfter (.object ((label, value) :: fields).reverse) rest around
  | _, _ => none

end

/-- The document that a text holds. -/
def parse? (s : String) : Option Json := do
  let tokens ← tokens? s.toList
  readValue tokens []

example : parse? " [1, -2, -0, true, \x7b\"a\": null\x7d] " = some (.array
    [.int 1, .int (-2), .real, .bool true, .object [(some "a", .null)]]) := by cbv

end AudioLink.Json
