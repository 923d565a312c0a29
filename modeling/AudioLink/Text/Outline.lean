/-
**Structural text.**

Some messages show a value by its structure: the name of its kind, then its parts.  Values are
first turned into an outline, a tree of such parts, and one function writes every outline.

* `AudioLink.Outline` — the tree;
* `AudioLink.Outline.render` — its text on one line;
* `AudioLink.Outlined` — the types whose values have an outline.
-/
import AudioLink.Text.Quoted

set_option relaxedAutoImplicit false
set_option autoImplicit false

namespace AudioLink

/-- The parts a structural text is made of. -/
inductive Outline where
  /-- A name, a number or a truth value. -/
  | word (shown : String)
  /-- A text in double quotes. -/
  | text (content : String)
  /-- A character in single quotes. -/
  | letter (content : Char)
  /-- A part with its label. -/
  | field (label : String) (value : Outline)
  /-- Items in square brackets. -/
  | list (items : List Outline)
  /-- A name followed by items in parentheses. -/
  | tuple (name : String) (items : List Outline)
  /-- A name followed by labelled parts in braces. -/
  | record (name : String) (fields : List Outline)
  deriving Inhabited

namespace Outline

mutual

/-- The text of an outline on one line. -/
def render : Outline → String
  | .word shown => shown
  | .text content => Text.quoted content
  | .letter content => Text.quotedLetter content
  | .field label value => label ++ ": " ++ render value
  | .list items => "[" ++ renderItems items ++ "]"
  | .tuple name items => name ++ "(" ++ renderItems items ++ ")"
  | .record name fields => name ++ " \x7b " ++ renderItems fields ++ " \x7d"

/-- The texts of some outlines with commas between them. -/
def renderItems : List Outline → String
  | [] => ""
  | [item] => render item
  | item :: items => render item ++ ", " ++ renderItems items

end

/-- A natural number. -/
def nat (n : Nat) : Outline := .word (Nat.repr n)

/-- A whole number. -/
def int (n : Int) : Outline := .word (toString n)

/-- A truth value. -/
def bool (b : Bool) : Outline := .word (if b then "true" else "false")

/-- A part that may be missing. -/
def option {α : Type} (f : α → Outline) : Option α → Outline
  | none => .word "None"
  | some a => .tuple "Some" [f a]

end Outline

/-- A type whose values have an outline. -/
class Outlined (α : Type) where
  /-- The structure of a value as it is shown. -/
  outline : α → Outline

/-- The structural text of a value. -/
def describe {α : Type} [Outlined α] (a : α) : String :=
  (Outlined.outline a).render

instance : Outlined String := ⟨.text⟩

instance {α : Type} [Outlined α] : Outlined (List α) :=
  ⟨fun items => .list (items.map Outlined.outline)⟩

instance {α : Type} [Outlined α] : Outlined (Option α) := ⟨Outline.option Outlined.outline⟩

end AudioLink
