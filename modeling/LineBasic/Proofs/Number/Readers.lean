import Mathlib
import LineBasic.Proofs.Number.Reply

/-!
The readers of decimal text against the texts that denote values. A text denotes a value
if it is digits, alone or after a sign that may stand there, and their number is in the
range (`Denotes`). As long as the digits are not too many, a literal answers the value that
its text denotes after a minus sign or none, a reply the one that its text denotes without
the blanks at its ends and after either sign or none, and both refuse any other text
(`decides_readLiteral`, `decides_readReply`). So they differ on blanks and plus signs only
(`readLiteral_eq_readReply`), and both read what is written.
-/
namespace LineBasic.Decimal

/-- The digits denote a value of the language, the last of them counting ones. -/
def AmountTo (negative : Bool) (digits : List Char) (n : Int) : Prop :=
  digits ≠ [] ∧ (∀ c ∈ digits, c.isDigit = true) ∧
    n = (if negative then -1 else 1) * (Nat.ofDigits 10 (digits.reverse.map fun c => c.toNat - '0'.toNat) : Nat) ∧
    Word.InRange n

/-- The text is digits with one of the signs before them, or with none, and denotes a value
    of the language. -/
def Denotes (signs text : List Char) (n : Int) : Prop :=
  AmountTo false text n ∨ ∃ sign ∈ signs, ∃ digits, text = sign :: digits ∧ AmountTo (sign = '-') digits n

/-- What is denoted is the answer, and where nothing is denoted the text is refused. -/
def Decides (result : Except Stop Int) (denoted : Int → Prop) : Prop :=
  (∀ n, result = .ok n ↔ denoted n) ∧ (result = .error (.fault .invalidNumber) ↔ ∀ n, ¬ denoted n)

variable {text digits signs : List Char} {n : Int}

/-- Digit after digit, the same number is had as from all of them at once. -/
theorem value_eq_ofDigits (digits : List Char) :
    value digits = Nat.ofDigits 10 (digits.reverse.map fun c => c.toNat - '0'.toNat) := by
  induction digits using List.reverseRecOn with
  | nil => rfl
  | append_singleton digits last ih =>
    have step : value (digits ++ [last]) = 10 * value digits + (last.toNat - 48) := by
      unfold value
      rw [List.foldl_append, List.foldl_cons, List.foldl_nil]
    rw [step, ih, List.reverse_append, List.reverse_singleton, List.singleton_append, List.map_cons, Nat.ofDigits_cons]
    exact Nat.add_comm _ _

theorem amountTo_iff {negative : Bool} :
    AmountTo negative digits n ↔ isNumeral digits = true ∧ n = signedValue negative digits ∧ Word.InRange n := by
  unfold AmountTo signedValue
  rw [isNumeral_iff, ← value_eq_ofDigits]
  cases negative <;> simp [and_assoc]

theorem Decides.congr {result : Except Stop Int} {denoted denoted' : Int → Prop} (decides : Decides result denoted)
    (same : ∀ n, denoted n ↔ denoted' n) : Decides result denoted' := by
  have equal : denoted = denoted' := funext fun n => propext (same n)
  exact equal ▸ decides

theorem decides_of_ok {denoted : Int → Prop} (only : ∀ m, denoted m ↔ m = n) : Decides (.ok n) denoted := by
  refine ⟨fun m => ?_, ?_⟩
  · rw [only, Except.ok.injEq, eq_comm]
  · simp [only]

theorem decides_of_refused {denoted : Int → Prop} (none : ∀ n, ¬ denoted n) :
    Decides (.error (.fault .invalidNumber)) denoted := by
  simp [Decides, none]

/-- Digits that are not too many are read as what they denote. -/
theorem decides_readDigits (negative : Bool) (short : digits.countP Char.isDigit ≤ digitLimit) :
    Decides (readDigits negative digits) (AmountTo negative digits) := by
  rw [readDigits_eq]
  by_cases numeral : isNumeral digits = true
  · have counted : digits.countP Char.isDigit = digits.length := List.countP_eq_length.2 (isNumeral_iff.1 numeral).2
    have fits : ¬ digitLimit < digits.length := by omega
    rw [if_pos numeral, if_neg fits]
    split_ifs with inside
    · refine decides_of_ok fun m => ?_
      rw [amountTo_iff]
      constructor
      · exact fun amounts => amounts.2.1
      · rintro rfl
        exact ⟨numeral, rfl, inside⟩
    · refine decides_of_refused fun m amounts => ?_
      obtain ⟨_, rfl, within⟩ := amountTo_iff.1 amounts
      exact inside within
  · rw [if_neg numeral]
    exact decides_of_refused fun m amounts => numeral (amountTo_iff.1 amounts).1

theorem denotes_cons {sign : Char} {negative : Bool} (allowed : sign ∈ signs) (other : sign.isDigit = false)
    (meant : decide (sign = '-') = negative) : Denotes signs (sign :: digits) n ↔ AmountTo negative digits n := by
  subst meant
  constructor
  · rintro (⟨_, all, _⟩ | ⟨sign', _, digits', same, amounts⟩)
    · rw [all sign List.mem_cons_self] at other
      cases other
    · cases same
      exact amounts
  · exact fun amounts => .inr ⟨sign, allowed, digits, rfl, amounts⟩

theorem denotes_unsigned (unsigned : ∀ sign ∈ signs, ∀ digits, text ≠ sign :: digits) :
    Denotes signs text n ↔ AmountTo false text n :=
  or_iff_left fun ⟨sign, allowed, digits, same, _⟩ => unsigned sign allowed digits same

/-- After a sign that may stand there, digits are read as what they denote with it. -/
theorem decides_signed {sign : Char} {negative : Bool} (allowed : sign ∈ signs) (other : sign.isDigit = false)
    (meant : decide (sign = '-') = negative) (short : (sign :: digits).countP Char.isDigit ≤ digitLimit) :
    Decides (readDigits negative digits) (Denotes signs (sign :: digits)) := by
  rw [List.countP_cons_of_neg (by simp [other])] at short
  exact (decides_readDigits negative short).congr fun _ => (denotes_cons allowed other meant).symm

theorem decides_unsigned (unsigned : ∀ sign ∈ signs, ∀ digits, text ≠ sign :: digits)
    (short : text.countP Char.isDigit ≤ digitLimit) : Decides (readDigits false text) (Denotes signs text) :=
  (decides_readDigits false short).congr fun _ => (denotes_unsigned unsigned).symm

theorem decides_readLiteral {text : String} (short : text.toList.countP Char.isDigit ≤ digitLimit) :
    Decides (readLiteral text) (Denotes ['-'] text.toList) := by
  unfold readLiteral
  split
  · next digits shown =>
    rw [shown] at short ⊢
    exact decides_signed (by simp) (by decide) (by decide) short
  · next unsigned => exact decides_unsigned (by simpa using unsigned) short

theorem countP_trimmed_le (text : List Char) : (Text.trimmed text).countP Char.isDigit ≤ text.countP Char.isDigit := by
  obtain ⟨before, after, split, _⟩ := Text.exists_eq_append_trimmed text
  conv_rhs => rw [split]
  rw [List.countP_append, List.countP_append]
  omega

theorem decides_readReply {text : String} (short : text.toList.countP Char.isDigit ≤ digitLimit) :
    Decides (readReply text) (Denotes ['+', '-'] (Text.trimmed text.toList)) := by
  have short := (countP_trimmed_le text.toList).trans short
  unfold readReply
  split
  · next digits shown =>
    rw [shown] at short ⊢
    exact decides_signed (by simp) (by decide) (by decide) short
  · next digits shown =>
    rw [shown] at short ⊢
    exact decides_signed (by simp) (by decide) (by decide) short
  · next negative positive => exact decides_unsigned (by simpa using ⟨positive, negative⟩) short

/-- Without blanks and plus signs, a text is the same as a literal and as a reply. -/
theorem readLiteral_eq_readReply {text : String}
    (plain : ∀ c ∈ text.toList, Text.isBlank c = false ∧ c ≠ '+') : readLiteral text = readReply text := by
  have whole : Text.trimmed text.toList = text.toList := by
    have split := @Text.trimmed_append [] text.toList [] (by simp) (by simp)
      (fun c first => (plain c (List.mem_of_mem_head? first)).1) fun c last => (plain c (List.mem_of_getLast? last)).1
    simpa using split
  unfold readLiteral readReply
  rw [whole]
  split
  · next digits shown =>
    rw [shown]
    rfl
  · next unsigned =>
    split
    · next digits shown => exact absurd shown (unsigned digits)
    · next digits shown => exact absurd rfl (plain '+' (by rw [shown]; exact List.mem_cons_self)).2
    · rfl

theorem plain_write (n : Int) : ∀ c ∈ (write n).toList, Text.isBlank c = false ∧ c ≠ '+' := by
  have plain : ∀ {c : Char}, c.isDigit = true → Text.isBlank c = false ∧ c ≠ '+' := by
    intro c digit
    refine ⟨Text.isBlank_eq_false_of_isAlphanum (by simp [Char.isAlphanum, digit]), ?_⟩
    rintro rfl
    cases digit
  intro c member
  cases n with
  | ofNat n =>
    rw [write, String.toList_ofList] at member
    exact plain (isDigit_of_mem_toDigits member)
  | negSucc n =>
    rw [write, String.toList_ofList] at member
    rcases List.mem_cons.1 member with rfl | member
    · decide
    · exact plain (isDigit_of_mem_toDigits member)

theorem readReply_write (inside : Word.InRange n) : readReply (write n) = .ok n := by
  rw [← readLiteral_eq_readReply (plain_write n), readLiteral_write inside]

end LineBasic.Decimal
