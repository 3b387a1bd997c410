import Mathlib.Data.List.Basic
import Mathlib.Tactic.Basic

/-!
# Decimal digits

A number is the value of its own digits, and none but zero has a zero in
front.
-/

namespace CertSteward.Decimal

set_option autoImplicit false

def charDigit (c : Char) : Nat :=
  c.toNat - 0x30

theorem digits_value (n : Nat) :
    ((Nat.toDigits 10 n).map charDigit).foldl (fun total digit => total * 10 + digit) 0 = n := by
  rw [List.foldl_map]
  have same := @Nat.ofDigitChars_ten_toDigits n
  unfold Nat.ofDigitChars at same
  simp only [Nat.mul_comm 10] at same
  exact same

theorem isDigit_of_mem {n : Nat} {c : Char} (member : c ∈ Nat.toDigits 10 n) :
    c.isDigit = true :=
  Nat.isDigit_of_mem_toDigits (by decide) (by decide) member

/-- No number but zero has a zero in front. -/
theorem zero_of_digits_head {n : Nat} (front : (Nat.toDigits 10 n).head? = some '0') : n = 0 := by
  induction n using Nat.strongRecOn with
  | ind n ih =>
      by_cases small : n < 10
      · rw [Nat.toDigits_of_lt_base small] at front
        have digit : n.digitChar = '0' := Option.some.inj front
        revert digit
        exact (by decide : ∀ n < 10, n.digitChar = '0' → n = 0) n small
      · rw [Nat.toDigits_of_base_le (by decide) (by omega),
          List.head?_append_of_ne_nil _ Nat.toDigits_ne_nil] at front
        have less := ih (n / 10) (by omega) front
        omega

end CertSteward.Decimal
