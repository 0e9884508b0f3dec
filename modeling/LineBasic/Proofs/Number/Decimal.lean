import Mathlib
import LineBasic.Number.Decimal

/-!
What reading and writing decimal text do to each other. Whatever is read is a value
of the language (`readLiteral_inRange`, `readReply_inRange`), digits alone are read as
the number that they denote (`readLiteral_of_digits`), and the digits that are written
for a number denote it (`value_toDigits`). So every value is read as it is written
(`readLiteral_write`).
-/
namespace LineBasic.Decimal

/-- The integer that digits denote, with a minus sign before them or without. -/
def signedValue (negative : Bool) (digits : List Char) : Int := if negative then -(value digits : Int) else value digits

/-- Digits are converted if they are not too many, and taken if what they denote is a
    value. -/
theorem readDigits_eq (negative : Bool) (digits : List Char) :
    readDigits negative digits =
      if isNumeral digits then
        if digitLimit < digits.length then .error (.tooManyDigits digits.length)
        else if Word.InRange (signedValue negative digits) then .ok (signedValue negative digits)
        else .error (.fault .invalidNumber)
      else .error (.fault .invalidNumber) := by
  unfold readDigits convert
  by_cases long : digitLimit < digits.length
  · rw [if_pos long, if_pos long]
    rfl
  · rw [if_neg long, if_neg long]
    rfl

private theorem readDigits_eq_ok {negative : Bool} {digits : List Char} {n : Int}
    (read : readDigits negative digits = .ok n) : isNumeral digits = true ∧ Word.InRange n := by
  rw [readDigits_eq] at read
  split_ifs at read with numeral long inside
  exact ⟨numeral, Except.ok.inj read ▸ inside⟩

/-- A literal is one or more digits, with or without a minus sign. -/
theorem isNumeral_of_readLiteral {text : String} {n : Int} (read : readLiteral text = .ok n) :
    isNumeral text.toList = true ∨ ∃ digits, text.toList = '-' :: digits ∧ isNumeral digits = true := by
  unfold readLiteral at read
  split at read
  · next digits shown => exact .inr ⟨digits, shown, (readDigits_eq_ok read).1⟩
  · exact .inl (readDigits_eq_ok read).1

/-- Every literal is a value. -/
theorem readLiteral_inRange {text : String} {n : Int} (read : readLiteral text = .ok n) : Word.InRange n := by
  unfold readLiteral at read
  split at read <;> exact (readDigits_eq_ok read).2

/-- Every reply that is taken is a value. -/
theorem readReply_inRange {text : String} {n : Int} (read : readReply text = .ok n) : Word.InRange n := by
  unfold readReply at read
  split at read <;> exact (readDigits_eq_ok read).2

/-- Digits alone are read as the number that they denote, unless they are too many or
    the number is too high. -/
theorem readLiteral_of_digits {number : String} (some : number.toList ≠ [])
    (digits : ∀ c ∈ number.toList, c.isDigit = true) :
    readLiteral number =
      if digitLimit < number.toList.length then .error (.tooManyDigits number.toList.length)
      else if (value number.toList : Int) ≤ Word.highest then .ok (value number.toList : Int)
      else .error (.fault .invalidNumber) := by
  have unsigned : readLiteral number = readDigits false number.toList := by
    unfold readLiteral
    split
    · next rest signed =>
      have minus := digits '-' (by rw [signed]; exact List.mem_cons_self)
      cases minus
    · rfl
  have numeral : isNumeral number.toList = true := by
    simpa [isNumeral, some] using digits
  have positive : Word.lowest ≤ (value number.toList : Int) := by
    unfold Word.lowest
    omega
  rw [unsigned, readDigits_eq, if_pos numeral]
  simp only [signedValue, Bool.false_eq_true, ↓reduceIte, Word.InRange, positive, true_and]

theorem value_toDigits (n : Nat) : value (Nat.toDigits 10 n) = n := by
  have whole : value (Nat.toDigits 10 n) = Nat.ofDigitChars 10 (Nat.toDigits 10 n) 0 :=
    Nat.ofDigitChars_eq_foldl.symm
  rw [whole, Nat.ofDigitChars_ten_toDigits]

/-- The digits of a value, whatever its sign, are not too many, and denote it. -/
theorem convert_toDigits {n : Nat} (inside : Word.lowest ≤ -(n : Int)) : convert (Nat.toDigits 10 n) = .ok n := by
  have short : (Nat.toDigits 10 n).length ≤ 10 := by
    rw [Nat.length_toDigits_le_iff (by decide) (by decide)]
    unfold Word.lowest at inside
    omega
  have fits : ¬ digitLimit < (Nat.toDigits 10 n).length := by unfold digitLimit; omega
  rw [convert, if_neg fits, value_toDigits]

theorem isDigit_of_mem_toDigits {n : Nat} {c : Char} (member : c ∈ Nat.toDigits 10 n) : c.isDigit = true :=
  Nat.isDigit_of_mem_toDigits (by decide) (by decide) member

theorem readDigits_toDigits {negative : Bool} {n : Nat} {value : Int}
    (signed : value = if negative then -(n : Int) else n) (inside : Word.InRange value) :
    readDigits negative (Nat.toDigits 10 n) = .ok value := by
  have numeral : isNumeral (Nat.toDigits 10 n) = true := by
    simpa [isNumeral] using fun c (member : c ∈ Nat.toDigits 10 n) => isDigit_of_mem_toDigits member
  have size : Word.lowest ≤ -(n : Int) := by
    unfold Word.InRange Word.lowest Word.highest at *
    cases negative <;> simp at signed <;> omega
  rw [readDigits, if_pos numeral, convert_toDigits size]
  simp only [bind, Except.bind, ← signed, if_pos inside]

/-- A value that is written is read back. -/
theorem readLiteral_write {value : Int} (inside : Word.InRange value) : readLiteral (write value) = .ok value := by
  cases value with
  | ofNat n =>
    obtain ⟨first, rest, written⟩ := List.exists_cons_of_ne_nil (Nat.toDigits_ne_nil (n := n) (b := 10))
    have digit : first.isDigit = true := isDigit_of_mem_toDigits (by rw [written]; exact List.mem_cons_self)
    have unsigned : first ≠ '-' := by
      rintro rfl
      cases digit
    rw [readLiteral, write, String.toList_ofList, written]
    split
    · next digits same => exact absurd (List.cons.inj same).1 unsigned
    · rw [← written]
      exact readDigits_toDigits (by simp) inside
  | negSucc n =>
    rw [readLiteral, write, String.toList_ofList]
    exact readDigits_toDigits (n := n + 1) (by simp [Int.negSucc_eq]) inside

end LineBasic.Decimal
