import Mathlib.Algebra.Group.Nat.Defs
import TokenServer.Text.Digit

/-! Digits are written without leading zeros, and reading them gives back the number that was written. -/

namespace TokenServer.Digit

variable {n : Nat}

theorem decimals_ne_nil : decimals n ≠ [] := Nat.toDigits_ne_nil

theorem isDecimal_of_mem_decimals {c : Char} (member : c ∈ decimals n) : isDecimal c = true := by
  have digit : c.isDigit = true := Nat.isDigit_of_mem_toDigits (by decide) (by decide) member
  exact digit

theorem length_decimals {width : Nat} (positive : 0 < width) (bound : n < 10 ^ width) : (decimals n).length ≤ width :=
  (Nat.length_toDigits_le_iff (by decide) positive).mpr bound

theorem decimalValue_eq_ofDigitChars (digits : List Char) : decimalValue digits = Nat.ofDigitChars 10 digits 0 := by
  rw [decimalValue, Nat.ofDigitChars_eq_foldl]
  simp only [Nat.mul_comm]

theorem decimalValue_decimals : decimalValue (decimals n) = n :=
  (decimalValue_eq_ofDigitChars _).trans Nat.ofDigitChars_ten_toDigits

theorem head?_decimals (positive : 0 < n) : (decimals n).head? ≠ some '0' := by
  induction n using Nat.strongRecOn with
  | ind n ih =>
    by_cases small : n < 10
    · have leading : ∀ n < 10, 0 < n → (decimals n).head? ≠ some '0' := by decide
      exact leading n small positive
    · have split : decimals n = decimals (n / 10) ++ [(n % 10).digitChar] :=
        Nat.toDigits_of_base_le (by decide) (Nat.le_of_not_lt small)
      have before := ih (n / 10) (by omega) (by omega)
      cases leading : decimals (n / 10) with
      | nil => exact absurd leading decimals_ne_nil
      | cons c rest =>
        rw [leading] at before
        rw [split, leading]
        exact before

theorem span_digits {digits : List Char} (run : ∀ c ∈ digits, isDecimal c = true) (rest : List Char)
    (stops : ∀ c, rest.head? = some c → isDecimal c = false) :
    (digits ++ rest).takeWhile isDecimal = digits ∧ (digits ++ rest).dropWhile isDecimal = rest := by
  rw [List.takeWhile_append_of_pos run, List.dropWhile_append_of_pos run]
  cases rest with
  | nil => exact ⟨List.append_nil _, rfl⟩
  | cons c rest => simp [stops c rfl]

theorem hex?_hex : ∀ digit < 16, hex? (hex digit) = some digit := by decide

end TokenServer.Digit
