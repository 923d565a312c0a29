/-
**Classes of characters by their bounds.**

Beyond ASCII a class of characters is kept as the code points at which membership changes: the
class is entered at the first, left at the second, and so on.

* `AudioLink.Text.within` — whether a code point lies in such a class;
* `AudioLink.Text.ascending` — whether some bounds are in order and none stands twice.
-/

set_option relaxedAutoImplicit false
set_option autoImplicit false

namespace AudioLink.Text

/-- Whether a code point lies between an entry and an exit: the number of bounds up to it is then
odd. -/
def within (bounds : List Nat) (n : Nat) : Bool := bounds.countP (· ≤ n) % 2 == 1

/-- Whether every number is less than the next. -/
def ascending : List Nat → Bool
  | a :: b :: rest => a < b && ascending (b :: rest)
  | _ => true

end AudioLink.Text
