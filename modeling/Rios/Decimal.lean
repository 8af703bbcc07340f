import Mathlib

/-!
# Decimal numbers as text

Unsigned numbers read from text and written without leading zeros. Reading
accepts a sign and zeros in front; what is written is read back.
-/

namespace Rios.Decimal

/-- The text behind an optional sign. -/
def unsigned (text : List Char) : List Char := if text.head? = some '+' then text.tail else text

/-- Text as an unsigned number up to a limit: digits, with an optional sign before them. -/
def parse_unsigned (limit : Nat) (text : List Char) : Option Nat :=
  let digits := unsigned text
  if digits.isEmpty || !digits.all Char.isDigit then none
  else if Nat.ofDigitChars 10 digits 0 ≤ limit then some (Nat.ofDigitChars 10 digits 0) else none

theorem digits_unsigned {text : List Char} (digits : ∀ c ∈ text, c.isDigit = true) : text.head? ≠ some '+' := by
  intro starts
  have digit := digits '+' (List.mem_of_mem_head? starts)
  revert digit
  decide

/-- What is read of digits is their value. -/
theorem parse_unsigned_digits {limit : Nat} {text : List Char} (some_digit : text ≠ [])
    (digits : ∀ c ∈ text, c.isDigit = true) :
    parse_unsigned limit text =
      if Nat.ofDigitChars 10 text 0 ≤ limit then some (Nat.ofDigitChars 10 text 0) else none := by
  have filled : (text.isEmpty || !text.all Char.isDigit) = false := by
    rw [List.all_eq_true.mpr digits,Bool.not_true,Bool.or_false,List.isEmpty_eq_false_iff]
    exact some_digit
  rw [parse_unsigned,unsigned,if_neg (digits_unsigned digits)]
  simp only [filled,Bool.false_eq_true,if_false]

theorem toDigits_isDigit (n : Nat) : ∀ c ∈ Nat.toDigits 10 n, c.isDigit = true :=
  fun _ member => Nat.isDigit_of_mem_toDigits (by decide) (by decide) member

/-- A written number is read back. -/
theorem parse_unsigned_toDigits {limit n : Nat} (within : n ≤ limit) :
    parse_unsigned limit (Nat.toDigits 10 n) = some n := by
  rw [parse_unsigned_digits Nat.toDigits_ne_nil (toDigits_isDigit n),Nat.ofDigitChars_ten_toDigits,if_pos within]

/-- Numbers of two digits and more do not begin with a zero. -/
theorem toDigits_head {n : Nat} (positive : 0 < n) : (Nat.toDigits 10 n).head? ≠ some '0' := by
  induction n using Nat.strongRecOn with
  | ind n ih =>
    by_cases small : n < 10
    · rw [Nat.toDigits_of_lt_base small,List.head?_cons]
      intro zero
      have value := Nat.toNat_digitChar_sub_48_of_lt_ten small
      rw [Option.some.inj zero] at value
      have digit : '0'.toNat - 48 = 0 := rfl
      omega
    · have front := ih (n / 10) (Nat.div_lt_self positive (by decide)) (Nat.div_pos (by omega) (by decide))
      rw [Nat.toDigits_of_base_le (by decide) (by omega),List.head?_append_of_ne_nil _ Nat.toDigits_ne_nil]
      exact front

theorem parse_unsigned_le {limit n : Nat} {text : List Char} (parsed : parse_unsigned limit text = some n) : n ≤ limit := by
  unfold parse_unsigned at parsed
  simp only at parsed
  split at parsed
  · cases parsed
  · split at parsed
    · cases parsed
      assumption
    · cases parsed

/-- Without a sign, only digits are read. -/
theorem parse_unsigned_unsigned {limit n : Nat} {text : List Char} (no_sign : text.head? ≠ some '+')
    (parsed : parse_unsigned limit text = some n) : text ≠ [] ∧ ∀ c ∈ text, c.isDigit = true := by
  rw [parse_unsigned,unsigned,if_neg no_sign] at parsed
  split at parsed
  · cases parsed
  · rename_i fine
    rw [Bool.not_eq_true,Bool.or_eq_false_iff,Bool.not_eq_false',List.isEmpty_eq_false_iff,List.all_eq_true] at fine
    exact fine

/-- Different numbers are written differently. -/
theorem toString_injective : Function.Injective (toString : Nat → String) := by
  intro a b same
  rw [Nat.toString_eq_ofList_toDigits,Nat.toString_eq_ofList_toDigits,String.ofList_inj] at same
  rw [← Nat.ofDigitChars_ten_toDigits (n := a),same,Nat.ofDigitChars_ten_toDigits]

theorem toList_toString (n : Nat) : (toString n).toList = Nat.toDigits 10 n := by
  rw [Nat.toString_eq_ofList_toDigits,String.toList_ofList]

end Rios.Decimal
