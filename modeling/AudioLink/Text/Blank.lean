/-
**Blank characters.**

The characters that count as white space, and the texts made of them alone.

* `AudioLink.Text.isBlank` — one character;
* `AudioLink.Text.allBlank` — a whole text, the empty one included.
-/

set_option relaxedAutoImplicit false
set_option autoImplicit false

namespace AudioLink.Text

/-- The twenty-five characters with the property White_Space. -/
def isBlank (c : Char) : Bool :=
  (0x09 ≤ c.toNat && c.toNat ≤ 0x0D) || (0x2000 ≤ c.toNat && c.toNat ≤ 0x200A) ||
    [0x20, 0x85, 0xA0, 0x1680, 0x2028, 0x2029, 0x202F, 0x205F, 0x3000].contains c.toNat

/-- Nothing is left of a text once the blanks at its ends are taken away: all of it is blank. -/
def allBlank (s : String) : Bool :=
  s.toList.all isBlank

end AudioLink.Text
