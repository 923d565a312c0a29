/-
**Codes that say what is asked.**

A gateway is asked for an action by a code, and the code is all that it gets.  A few codes are the
beginning of others: the number of a call follows its code at once, so that the code which releases
the call of some number starts like the one that releases the active calls.  They can be told apart
all the same, since a number has at least one digit and is written in one way only.

Main definitions:

* `AudioLink.Command.control?`, `AudioLink.Handsfree.Order.code?` — the action that a command asks
  for, and the code that is written for an order.

Main results:

* `AudioLink.CallControl.length_code_of_plain`, `AudioLink.CallControl.lt_length_code` — a code is
  longer than six characters exactly if it carries a number;
* `AudioLink.CallControl.code_inj` — no two actions have the same code;
* `AudioLink.Handsfree.Order.code_faithful` — **the code that is written for an order tells what was
  chosen**.
-/

import AudioLink.Handsfree.Order

set_option relaxedAutoImplicit false
set_option autoImplicit false

namespace AudioLink

namespace CallControl

variable {a b : CallControl} {number : Nat}

/-- An action that carries a number releases the call of that number or talks to it in private. -/
theorem number?_eq_some_iff :
    a.number? = some number ↔ a = releaseSpecific number ∨ a = privateConsultation number := by
  cases a <;> simp [number?]

/-- A code without a number has six characters at most. -/
theorem length_code_of_plain : ∀ a ∈ plain, a.code.length ≤ 6 := by decide

/-- A number is written behind six characters. -/
theorem lt_length_code (h : a.number? = some number) : 6 < a.code.length := by
  have hdigits : 0 < (Nat.repr number).length := Nat.length_repr_pos
  rcases number?_eq_some_iff.1 h with rfl | rfl
  all_goals
    rw [code, String.length_append]
    exact Nat.lt_add_of_pos_right hdigits

/-- Codes without a number are all different. -/
theorem eq_of_code_eq_of_plain : ∀ a ∈ plain, ∀ b ∈ plain, a.code = b.code → a = b := by decide

/-- The decimal digits of a number can be read in one way only. -/
theorem eq_of_digits_eq {m n : Nat} (h : Nat.toDigits 10 m = Nat.toDigits 10 n) : m = n :=
  calc
    m = Nat.ofDigitChars 10 (Nat.toDigits 10 m) 0 := Nat.ofDigitChars_ten_toDigits.symm
    _ = Nat.ofDigitChars 10 (Nat.toDigits 10 n) 0 := by rw [h]
    _ = n := Nat.ofDigitChars_ten_toDigits

/-- Of a code with a number, the sixth character tells what is asked, and the digits behind it of
which call. -/
theorem eq_of_code_eq_of_numbered {m n : Nat} (ha : a.number? = some m) (hb : b.number? = some n)
    (h : a.code = b.code) : a = b := by
  have hchars : a.code.toList = b.code.toList := congrArg String.toList h
  rcases number?_eq_some_iff.1 ha with rfl | rfl <;> rcases number?_eq_some_iff.1 hb with rfl | rfl
  · exact congrArg releaseSpecific (eq_of_digits_eq (by simpa [code] using hchars))
  · simp [code] at hchars
  · simp [code] at hchars
  · exact congrArg privateConsultation (eq_of_digits_eq (by simpa [code] using hchars))

/-- No two actions have the same code. -/
theorem code_inj : a.code = b.code ↔ a = b := by
  refine ⟨fun h => ?_, congrArg code⟩
  have hlength : a.code.length = b.code.length := congrArg String.length h
  cases ha : a.number? with
  | none =>
      have hshort := length_code_of_plain a (mem_plain_iff.2 ha)
      cases hb : b.number? with
      | none => exact eq_of_code_eq_of_plain a (mem_plain_iff.2 ha) b (mem_plain_iff.2 hb) h
      | some n =>
          have hlong := lt_length_code hb
          omega
  | some m =>
      have hlong := lt_length_code ha
      cases hb : b.number? with
      | none =>
          have hshort := length_code_of_plain b (mem_plain_iff.2 hb)
          omega
      | some n => exact eq_of_code_eq_of_numbered ha hb h

end CallControl

/-- The action that a command asks for. -/
def Command.control? : Command → Option CallControl
  | call action => some action
  | _ => none

namespace Handsfree.Order

/-- The code that is written for an order about the calls. -/
def code? (order : Order) : Option String := order.command.control?.map (·.code)

/-- **What a code tells.**  Actions with the same code are the same, whichever numbers they carry;
so the code that is written for an order tells which action was chosen, if it was one at all. -/
theorem code_faithful :
    (∀ a b : CallControl, a.code = b.code ↔ a = b) ∧
      ∀ order other : Order,
        order.code? = other.code? ↔ order.command.control? = other.command.control? := by
  refine ⟨fun _ _ => CallControl.code_inj, fun order other => ?_⟩
  have hinj : Function.Injective CallControl.code := fun _ _ h => CallControl.code_inj.1 h
  exact (Option.map_injective hinj).eq_iff

end Handsfree.Order

end AudioLink
