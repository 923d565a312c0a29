/-
**Types whose values are names.**

Many of the types here have finitely many values without further parts, each written by a name.
The names are kept in one place per type; reading a name, writing one and outlining a value all
use them.

* `AudioLink.Named` — such a type: its values in order and the name of each;
* `AudioLink.Named.ofName?` — the value with a given name;
* `AudioLink.Named.ofName?_name` — every value is found again by its name.
-/
import AudioLink.Text.Outline

set_option relaxedAutoImplicit false
set_option autoImplicit false

namespace AudioLink

/-- A type with finitely many values, each with a name of its own. -/
class Named (α : Type) where
  /-- The values, in order. -/
  values : List α
  /-- The name of a value. -/
  name : α → String
  /-- No value is left out and no two share a name: looking for a value's name finds it. -/
  find_name : ∀ a : α, values.find? (fun b => name b == name a) = some a

namespace Named

variable {α : Type} [Named α]

/-- The value with the given name, if there is one. -/
def ofName? (s : String) : Option α :=
  (values (α := α)).find? (fun a => name a == s)

theorem ofName?_name (a : α) : ofName? (name a) = some a :=
  find_name a

end Named

instance {α : Type} [Named α] : Outlined α := ⟨fun a => .word (Named.name a)⟩

end AudioLink
