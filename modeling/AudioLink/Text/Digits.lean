/-
**Digits.**

Numbers in base sixteen, read and written one digit at a time.

* `AudioLink.Text.hexDigitOf?` — the value of a digit, in either case;
* `AudioLink.Text.hexDigit` — the upper-case digit of a value;
* `AudioLink.Text.hexDigitOf?_hexDigit` — reading a written digit gives its value back.
-/

set_option relaxedAutoImplicit false
set_option autoImplicit false

namespace AudioLink.Text

/-- The value of a hexadecimal digit in either case; no other character has one. -/
def hexDigitOf? (c : Char) : Option Nat :=
  if 0x30 ≤ c.toNat ∧ c.toNat ≤ 0x39 then some (c.toNat - 0x30)
  else if 0x41 ≤ c.toNat ∧ c.toNat ≤ 0x46 then some (c.toNat - 0x41 + 10)
  else if 0x61 ≤ c.toNat ∧ c.toNat ≤ 0x66 then some (c.toNat - 0x61 + 10)
  else none

/-- The upper-case digit of a value below sixteen. -/
def hexDigit (n : Nat) : Char :=
  if n < 10 then Char.ofNat (0x30 + n) else Char.ofNat (0x41 + (n - 10))

/-- A number in lower-case base sixteen, without padding. -/
def hexLower (n : Nat) : String :=
  String.ofList (Nat.toDigits 16 n)

/-- The two upper-case digits of an octet. -/
def octetDigits (b : UInt8) : List Char :=
  [hexDigit (b.toNat / 16), hexDigit (b.toNat % 16)]

theorem hexDigitOf?_hexDigit : ∀ n, n < 16 → hexDigitOf? (hexDigit n) = some n := by
  decide

/-- A digit is below sixteen. -/
theorem hexDigitOf?_lt {c : Char} {n : Nat} (h : hexDigitOf? c = some n) : n < 16 := by
  unfold hexDigitOf? at h
  split at h <;> (try split at h) <;> (try split at h) <;> simp at h <;> omega

end AudioLink.Text
