import Mathlib
import LineBasic.Proofs.Number.Decimal
import LineBasic.Proofs.Text.Trim
import LineBasic.Text.Lemmas

/-!
The replies to a prompt as texts. A reply `Spells` a sign and digits if it is these,
with blanks around them; with the sign the digits denote an integer (`signedValue`). A
reply answers an integer if it spells one in the range of values, and is overlong if
its digits are too many. What is read from it follows: the integer that it answers
unless it is overlong (`readReply_eq_ok_iff`), and otherwise the cause is known
(`readReply_eq_tooManyDigits_iff`, `readReply_eq_invalidNumber_iff`).
-/
namespace LineBasic.Decimal

/-- A reply of digits with an optional sign before them and blanks around. -/
def Spells (reply : String) (sign digits : List Char) : Prop :=
  ∃ before after, reply.toList = before ++ (sign ++ digits ++ after) ∧ (∀ c ∈ before, Text.isBlank c = true) ∧
    (∀ c ∈ after, Text.isBlank c = true) ∧ sign ∈ [[], ['+'], ['-']] ∧ digits ≠ [] ∧ ∀ c ∈ digits, c.isDigit = true

/-- A reply that spells an integer in the range of values. -/
def Answers (reply : String) (n : Int) : Prop :=
  ∃ sign digits, Spells reply sign digits ∧ signedValue (sign = ['-']) digits = n ∧ Word.InRange n

/-- A reply of more digits than are converted. -/
def Overlong (reply : String) (count : Nat) : Prop :=
  ∃ sign digits, Spells reply sign digits ∧ digits.length = count ∧ digitLimit < count

variable {reply : String} {sign digits : List Char}

theorem isNumeral_iff : isNumeral digits = true ↔ digits ≠ [] ∧ ∀ c ∈ digits, c.isDigit = true := by
  simp [isNumeral]

/-! ### What a reply spells -/

theorem Spells.isNumeral (spells : Spells reply sign digits) : isNumeral digits = true := by
  obtain ⟨_, _, _, _, _, _, some, all⟩ := spells
  exact isNumeral_iff.2 ⟨some, all⟩

theorem Spells.trimmed_eq (spells : Spells reply sign digits) : Text.trimmed reply.toList = sign ++ digits := by
  obtain ⟨before, after, whole, blankBefore, blankAfter, signs, some, all⟩ := spells
  have digit : ∀ c ∈ digits, Text.isBlank c = false := fun c member =>
    Text.isBlank_eq_false_of_isAlphanum (by rw [Char.isAlphanum, all c member, Bool.or_true])
  rw [whole]
  refine Text.trimmed_append blankBefore blankAfter (fun c first => ?_) (fun c last => ?_)
  · rcases List.mem_append.1 (List.mem_of_mem_head? first) with member | member
    · have : sign = ['+'] ∨ sign = ['-'] := by
        rcases List.mem_cons.1 signs with rfl | other
        · cases member
        · simpa using other
      rcases this with rfl | rfl
      all_goals
        rw [List.mem_singleton.1 member]
        decide
    · exact digit c member
  · rw [List.getLast?_append_of_ne_nil _ some] at last
    exact digit c (List.mem_of_getLast? last)

/-- A reply that spells a sign and digits is read by what they are. -/
theorem Spells.readReply_eq (spells : Spells reply sign digits) :
    readReply reply = readDigits (sign = ['-']) digits := by
  have trimmed := spells.trimmed_eq
  obtain ⟨some, all⟩ := isNumeral_iff.1 spells.isNumeral
  obtain ⟨_, _, _, _, _, signs, _⟩ := spells
  simp only [List.mem_cons, List.not_mem_nil, or_false] at signs
  rcases signs with rfl | rfl | rfl
  · -- Without a sign the first character is a digit.
    have unsigned : Text.trimmed reply.toList = digits := trimmed
    unfold readReply
    rw [unsigned]
    split
    · exact absurd (all '-' List.mem_cons_self) (by decide)
    · exact absurd (all '+' List.mem_cons_self) (by decide)
    · rfl
  · rw [readReply, trimmed]
    rfl
  · rw [readReply, trimmed]
    rfl

/-- What is not refused as a text spells a sign and digits. -/
theorem exists_spells (other : readReply reply ≠ .error (.fault .invalidNumber)) :
    ∃ sign digits, Spells reply sign digits := by
  obtain ⟨before, after, whole, blankBefore, blankAfter⟩ := Text.exists_eq_append_trimmed reply.toList
  have spells : ∀ negative {sign digits}, Text.trimmed reply.toList = sign ++ digits → sign ∈ [[], ['+'], ['-']] →
      readReply reply = readDigits negative digits → Spells reply sign digits := by
    intro negative sign digits trimmed signs read
    have numeral : isNumeral digits = true := by
      by_contra none
      rw [read, readDigits, if_neg none] at other
      exact other rfl
    obtain ⟨some, all⟩ := isNumeral_iff.1 numeral
    exact ⟨before, after, trimmed ▸ whole, blankBefore, blankAfter, signs, some, all⟩
  cases trimmed : Text.trimmed reply.toList with
  | nil => exact ⟨[], [], spells false trimmed (by simp) (by rw [readReply, trimmed])⟩
  | cons c rest =>
    by_cases minus : c = '-'
    · subst minus
      exact ⟨['-'], rest, spells true trimmed (by simp) (by rw [readReply, trimmed]; rfl)⟩
    · by_cases plus : c = '+'
      · subst plus
        exact ⟨['+'], rest, spells false trimmed (by simp) (by rw [readReply, trimmed]; rfl)⟩
      · refine ⟨[], c :: rest, spells false trimmed (by simp) ?_⟩
        unfold readReply
        rw [trimmed]
        split
        · next same => exact absurd (List.cons.inj same).1 minus
        · next same => exact absurd (List.cons.inj same).1 plus
        · rfl

/-! ### What is read -/

theorem Overlong.readReply_eq {count : Nat} (overlong : Overlong reply count) :
    readReply reply = .error (.tooManyDigits count) := by
  obtain ⟨sign, digits, spells, rfl, long⟩ := overlong
  rw [spells.readReply_eq, readDigits_eq, if_pos spells.isNumeral, if_pos long]

theorem Answers.readReply_eq {n : Int} (answers : Answers reply n) (short : ∀ count, ¬ Overlong reply count) :
    readReply reply = .ok n := by
  obtain ⟨sign, digits, spells, rfl, inside⟩ := answers
  have fits : ¬ digitLimit < digits.length := fun long => short _ ⟨sign, digits, spells, rfl, long⟩
  rw [spells.readReply_eq, readDigits_eq, if_pos spells.isNumeral, if_neg fits, if_pos inside]

/-- What can be read from a reply, by the cause where there is no integer. -/
theorem readReply_cases (reply : String) :
    (∃ n, readReply reply = .ok n ∧ Answers reply n ∧ ∀ count, ¬ Overlong reply count) ∨
      (∃ count, readReply reply = .error (.tooManyDigits count) ∧ Overlong reply count) ∨
      readReply reply = .error (.fault .invalidNumber) ∧ (∀ n, ¬ Answers reply n) ∧
        ∀ count, ¬ Overlong reply count := by
  by_cases long : ∃ count, Overlong reply count
  · obtain ⟨count, overlong⟩ := long
    exact .inr (.inl ⟨count, overlong.readReply_eq, overlong⟩)
  · have short := not_exists.1 long
    by_cases answered : ∃ n, Answers reply n
    · obtain ⟨n, answers⟩ := answered
      exact .inl ⟨n, answers.readReply_eq short, answers, short⟩
    · refine .inr (.inr ⟨?_, not_exists.1 answered, short⟩)
      by_contra other
      obtain ⟨sign, digits, spells⟩ := exists_spells other
      have fits : ¬ digitLimit < digits.length := fun long => short _ ⟨sign, digits, spells, rfl, long⟩
      have outside : ¬ Word.InRange (signedValue (sign = ['-']) digits) := fun inside =>
        answered ⟨_, sign, digits, spells, rfl, inside⟩
      rw [spells.readReply_eq, readDigits_eq, if_pos spells.isNumeral, if_neg fits, if_neg outside] at other
      exact other rfl

/-- The integer that a reply answers is read, unless the reply is overlong. -/
theorem readReply_eq_ok_iff {n : Int} :
    readReply reply = .ok n ↔ Answers reply n ∧ ∀ count, ¬ Overlong reply count := by
  constructor
  · intro read
    rcases readReply_cases reply with ⟨m, same, answers⟩ | ⟨count, same, _⟩ | ⟨same, _⟩
    · rw [read, Except.ok.injEq] at same
      exact same ▸ answers
    · cases read.symm.trans same
    · cases read.symm.trans same
  · rintro ⟨answers, short⟩
    exact answers.readReply_eq short

theorem readReply_eq_tooManyDigits_iff {count : Nat} :
    readReply reply = .error (.tooManyDigits count) ↔ Overlong reply count := by
  constructor
  · intro read
    rcases readReply_cases reply with ⟨m, same, _⟩ | ⟨other, same, overlong⟩ | ⟨same, _⟩
    · cases read.symm.trans same
    · rw [read, Except.error.injEq, Stop.tooManyDigits.injEq] at same
      exact same ▸ overlong
    · cases read.symm.trans same
  · exact Overlong.readReply_eq

/-- A reply is refused if it answers no integer and is not overlong. -/
theorem readReply_eq_invalidNumber_iff :
    readReply reply = .error (.fault .invalidNumber) ↔
      (∀ n, ¬ Answers reply n) ∧ ∀ count, ¬ Overlong reply count := by
  constructor
  · intro read
    rcases readReply_cases reply with ⟨m, same, _⟩ | ⟨count, same, _⟩ | ⟨_, refused⟩
    · cases read.symm.trans same
    · cases read.symm.trans same
    · exact refused
  · rintro ⟨unanswered, short⟩
    rcases readReply_cases reply with ⟨m, _, answers, _⟩ | ⟨count, _, overlong⟩ | ⟨read, _⟩
    · exact absurd answers (unanswered m)
    · exact absurd overlong (short count)
    · exact read

/-- Too many of the same digit are an overlong reply. -/
theorem overlong_replicate {count : Nat} (long : digitLimit < count) :
    Overlong (String.ofList (List.replicate count '1')) count := by
  have some : List.replicate count '1' ≠ [] := List.replicate_eq_nil_iff '1' |>.not.2 (Nat.ne_zero_of_lt long)
  have all : ∀ c ∈ List.replicate count '1', c.isDigit = true := fun c member =>
    List.eq_of_mem_replicate member ▸ rfl
  exact ⟨[], List.replicate count '1', ⟨[], [], by simp, by simp, by simp, by simp, some, all⟩, List.length_replicate,
    long⟩

end LineBasic.Decimal
