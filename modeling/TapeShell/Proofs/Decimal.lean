/-
This file shows that whole numbers are read back from their decimal digits.
-/

import TapeShell.Proofs.Segment
import TapeShell.Text.Decimal

namespace TapeShell.Text.Decimal

/-- A digit is read as its value. -/
theorem digitValue?_digit {value : Nat} (small : value < 10) :
    digitValue? (digit value) = some value := by
  have all : ∀ value < 10, digitValue? (digit value) = some value := by decide
  exact all value small

/-- Every value below ten has a digit. -/
theorem isDigit_digit {value : Nat} (small : value < 10) : (digit value).isDigit = true := by
  have all : ∀ value < 10, (digit value).isDigit = true := by decide
  exact all value small

/-- Every number has a digit. -/
theorem digits_ne_nil (number : Nat) : digits number ≠ [] := by
  rw [digits]
  split <;> simp

/-- A number is written in digits only. -/
theorem isDigit_of_mem_digits {number : Nat} {character : Char}
    (member : character ∈ digits number) : character.isDigit = true := by
  induction number using digits.induct with
  | case1 number small =>
      rw [digits, if_pos small, List.mem_singleton] at member
      rw [member]
      exact isDigit_digit small
  | case2 number large inductionHypothesis =>
      rw [digits, if_neg large, List.mem_append, List.mem_singleton] at member
      rcases member with inFront | isLast
      · exact inductionHypothesis inFront
      · rw [isLast]
        exact isDigit_digit (Nat.mod_lt number (by decide))

/-- No number but zero starts with the digit zero. -/
theorem head?_digits_ne_zero {number : Nat} (positive : 0 < number) :
    (digits number).head? ≠ some '0' := by
  induction number using digits.induct with
  | case1 number small =>
      have all : ∀ number < 10, 0 < number → digit number ≠ '0' := by decide
      rw [digits, if_pos small]
      simpa using all number small positive
  | case2 number large inductionHypothesis =>
      rw [digits, if_neg large, List.head?_append_of_ne_nil _ (digits_ne_nil _)]
      exact inductionHypothesis (by omega)

/-- Digits are read from left to right. -/
theorem readDigits_append (value : Nat) (left right : List Char) :
    readDigits value (left ++ right) = (readDigits value left).bind (readDigits · right) := by
  induction left generalizing value with
  | nil => rfl
  | cons character rest inductionHypothesis =>
      simp only [List.cons_append, readDigits, Option.bind_eq_bind, inductionHypothesis,
        Option.bind_assoc]

/-- A number is read from its own digits. -/
theorem readDigits_digits (number : Nat) : readDigits 0 (digits number) = some number := by
  induction number using digits.induct with
  | case1 number small =>
      rw [digits, if_pos small]
      simp [readDigits, digitValue?_digit small]
  | case2 number large inductionHypothesis =>
      have last : number % 10 < 10 := Nat.mod_lt number (by decide)
      have whole : number / 10 * 10 + number % 10 = number := by omega
      rw [digits, if_neg large, readDigits_append, inductionHypothesis]
      simp [readDigits, digitValue?_digit last, whole]

/-- A number is read back from its digits. -/
theorem natural?_digits (number : Nat) : natural? (digits number) = some number := by
  have start := digits_ne_nil number
  cases text : digits number with
  | nil => exact absurd text start
  | cons character rest =>
      rw [natural?, ← text, readDigits_digits]
      simp

/-- The digits are the points from 48 to 57. -/
theorem bounds_of_isDigit {character : Char} (digit : character.isDigit = true) :
    48 ≤ character.toNat ∧ character.toNat ≤ 57 := by
  simpa [Char.isDigit, UInt32.le_iff_toNat_le] using digit

/-- No digit is blank. -/
theorem isBlank_of_isDigit {character : Char} (digit : character.isDigit = true) :
    isBlank character = false := by
  have bounds := bounds_of_isDigit digit
  simp [isBlank, blankRanges, Ranges.contains]
  omega

/-- Digits have no blank at either end. -/
theorem trimmed_digits (number : Nat) : Trimmed (digits number) :=
  .of_forall fun _ member => isBlank_of_isDigit (isDigit_of_mem_digits member)

/-- A natural number is written without a sign. -/
theorem toList_renderInt_ofNat (size : Nat) : (renderInt (.ofNat size)).toList = digits size := by
  simp [renderInt, render]

/-- A negative number is written behind a minus sign. -/
theorem toList_renderInt_negSucc (size : Nat) :
    (renderInt (.negSucc size)).toList = '-' :: digits (size + 1) := by
  simp [renderInt, render]

/-- No integer is written with blanks around it. -/
theorem trimmed_renderInt (number : Int) : Trimmed (renderInt number).toList := by
  cases number with
  | ofNat size =>
      rw [toList_renderInt_ofNat]
      exact trimmed_digits size
  | negSucc size =>
      rw [toList_renderInt_negSucc, ← List.singleton_append]
      exact (Trimmed.singleton (by decide)).append (trimmed_digits (size + 1))

/-- A signed number is read as such if 64 bits hold it. -/
def fit? (number : Int) : Option Int64 :=
  if Int64.minValue.toInt ≤ number ∧ number ≤ Int64.maxValue.toInt then some (Int64.ofInt number)
  else none

/-- Every word of 64 bits fits into 64 bits. -/
theorem fit?_toInt (number : Int64) : fit? number.toInt = some number := by
  rw [fit?, if_pos ⟨Int64.minValue_le_toInt number, Int64.toInt_le number⟩, Int64.ofInt_toInt]

/-- Digits carry no sign of their own. -/
theorem signed?_digits (number : Nat) : signed? (digits number) = fit? number := by
  have readBack := natural?_digits number
  cases text : digits number with
  | nil => exact absurd text (digits_ne_nil number)
  | cons first rest =>
      have digit : first.isDigit = true := isDigit_of_mem_digits (text ▸ List.mem_cons_self)
      have plus : first ≠ '+' := by
        rintro rfl
        contradiction
      have minus : first ≠ '-' := by
        rintro rfl
        contradiction
      rw [text] at readBack
      simp [signed?, plus, minus, readBack, fit?]

/-- A minus sign negates the number behind it. -/
theorem signed?_minus (number : Nat) : signed? ('-' :: digits number) = fit? (-number) := by
  simp [signed?, natural?_digits, fit?]

/-- Every word of 64 bits is read back from its decimal form. -/
theorem signed?_renderInt (number : Int64) :
    signed? (renderInt number.toInt).toList = some number := by
  rw [← fit?_toInt number]
  cases number.toInt with
  | ofNat size =>
      rw [toList_renderInt_ofNat, signed?_digits]
      rfl
  | negSucc size =>
      rw [toList_renderInt_negSucc, signed?_minus]
      rfl

end TapeShell.Text.Decimal
