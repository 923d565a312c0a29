/-
**The text of a length of time.**

A length of time is written in the largest of the units second, millisecond, microsecond and
nanosecond of which it holds at least one, with as many decimals as it needs and no trailing zero.

* `AudioLink.Text.trimmedFraction` — the decimals of a remainder;
* `AudioLink.Text.span` — the text of a number of nanoseconds.
-/

set_option relaxedAutoImplicit false
set_option autoImplicit false

namespace AudioLink.Text

/-- The digits of `n` after the point, in `width` places, without the zeros at the end. -/
def trimmedFraction (width n : Nat) : List Char :=
  let digits := (Nat.repr n).toList
  let padded := List.replicate (width - digits.length) '0' ++ digits
  (padded.reverse.dropWhile (· = '0')).reverse

/-- `n` nanoseconds in a unit of `size` nanoseconds, whose parts take `places` digits. -/
def inUnit (size places : Nat) (unit : String) (n : Nat) : String :=
  let fraction := trimmedFraction places (n % size)
  Nat.repr (n / size) ++
    (if fraction.isEmpty then "" else "." ++ String.ofList fraction) ++ unit

/-- The nanoseconds of a microsecond. -/
def microsecond : Nat := 1000

/-- The nanoseconds of a millisecond. -/
def millisecond : Nat := 1000 * microsecond

/-- The nanoseconds of a second. -/
def second : Nat := 1000 * millisecond

/-- The text of `n` nanoseconds. -/
def span (n : Nat) : String :=
  if second ≤ n then inUnit second 9 "s" n
  else if millisecond ≤ n then inUnit millisecond 6 "ms" n
  else if microsecond ≤ n then inUnit microsecond 3 "µs" n
  else inUnit 1 0 "ns" n

example : span 0 = "0ns" := by decide +kernel
example : span 1500 = "1.5µs" := by decide +kernel
example : span 10500000 = "10.5ms" := by decide +kernel
example : span 1000000001 = "1.000000001s" := by decide +kernel
example : span 3600000100000 = "3600.0001s" := by decide +kernel

end AudioLink.Text
