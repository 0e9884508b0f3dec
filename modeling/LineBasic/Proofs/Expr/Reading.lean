import Mathlib
import LineBasic.Expr.Parser
import LineBasic.Proofs.Expr.Grammar
import LineBasic.Proofs.Token.Ahead

/-!
Reading an expression against the grammar. What is read is derived at the level of
the threshold, and the tokens after it are left (`derives_of_readWithin`); what is
derived is read, wherever the next token cannot join it (`read_of_derives`). So an
expression has one tree, and a list of tokens is read as a whole exactly if it is
one (`read_iff_derives`).
-/
namespace LineBasic

namespace Operator

theorem one_le_precedence (operator : Operator) : 1 ≤ operator.precedence := by
  rcases operator with _ | (_ | _ | _ | _) <;> decide

theorem precedence_le_three (operator : Operator) : operator.precedence ≤ 3 := by
  rcases operator with _ | (_ | _ | _ | _) <;> decide

theorem leftLevel_le_three (operator : Operator) : operator.leftLevel ≤ 3 := by
  rcases operator with _ | (_ | _ | _ | _) <;> decide

theorem leftLevel_le_precedence (operator : Operator) : operator.leftLevel ≤ operator.precedence := by
  rcases operator with _ | (_ | _ | _ | _) <;> decide

theorem rightLevel_le_three (operator : Operator) : operator.rightLevel ≤ 3 := by
  rcases operator with _ | (_ | _ | _ | _) <;> decide

theorem precedence_le_rightLevel (operator : Operator) : operator.precedence - 1 ≤ operator.rightLevel := by
  rcases operator with _ | (_ | _ | _ | _) <;> decide

/-- The right operand of an operator ends before the operators that may have the
    whole operation on their left, and only there. -/
theorem precedence_le_rightLevel_iff (operator next : Operator) :
    next.precedence ≤ operator.rightLevel ↔ next.leftLevel ≤ operator.precedence - 1 := by
  rcases operator with _ | (_ | _ | _ | _) <;> rcases next with _ | (_ | _ | _ | _) <;> decide

end Operator

namespace Token

theorem precedence_of_operator? {token : Token} {operator : Operator} (joins : token.operator? = some operator) :
    token.precedence = operator.precedence := by
  simp [precedence, joins]

theorem operator?_of_precedence {token : Token} (binds : 0 < token.precedence) :
    ∃ operator, token.operator? = some operator := by
  cases joins : token.operator? with
  | none => simp [precedence, joins] at binds
  | some operator => exact ⟨operator, rfl⟩

theorem precedence_of_isEnding {token : Token} (ends : token.isEnding = true) : token.precedence = 0 := by
  simp [precedence, operator?, isEnding_iff.1 ends]

end Token

namespace Expr

theorem rightThreshold_eq {token : Token} {operator : Operator} (joins : token.operator? = some operator) :
    rightThreshold token = operator.rightLevel := by
  have text := (Token.isSign_iff.1 (Token.operator?_eq_some_iff.1 joins)).2
  rw [rightThreshold, Token.precedence_of_operator? joins, text]
  rcases operator with _ | (_ | _ | _ | _) <;> decide

/-- The tokens that follow begin with nothing that binds tighter than the threshold. -/
def Ends (threshold : Nat) (rest : List Token) : Prop := ∀ token ∈ rest.head?, token.precedence ≤ threshold

/-- An operator that comes next may have what is of the level on its left. -/
def Suits (level : Nat) (rest : List Token) : Prop :=
  ∀ token ∈ rest.head?, ∀ operator, token.operator? = some operator → operator.leftLevel ≤ level

theorem suits_three (rest : List Token) : Suits 3 rest := fun _ _ operator _ => operator.leftLevel_le_three

theorem Suits.mono {low high : Nat} {rest : List Token} (suits : Suits low rest) (below : low ≤ high) :
    Suits high rest :=
  fun token member operator joins => (suits token member operator joins).trans below

theorem Ends.suits {threshold : Nat} {rest : List Token} (ends : Ends threshold rest) :
    Suits (min threshold 3) rest := by
  intro token member operator joins
  have binds := ends token member
  rw [Token.precedence_of_operator? joins] at binds
  exact le_min ((operator.leftLevel_le_precedence).trans binds) operator.leftLevel_le_three

/-- The right operand of an operator ends where the whole operation may go on. -/
theorem ends_rightLevel_iff (operator : Operator) (rest : List Token) :
    Ends operator.rightLevel rest ↔ Suits (operator.precedence - 1) rest := by
  constructor
  · intro ends token member next joins
    have binds := ends token member
    rw [Token.precedence_of_operator? joins] at binds
    exact (operator.precedence_le_rightLevel_iff next).1 binds
  · intro suits token member
    rcases Nat.eq_zero_or_pos token.precedence with none | binds
    · omega
    · obtain ⟨next, joins⟩ := Token.operator?_of_precedence binds
      rw [Token.precedence_of_operator? joins]
      exact (operator.precedence_le_rightLevel_iff next).2 (suits token member next joins)

theorem readWithin_succ (depth : Nat) (threshold : Int) (scanner : Scanner) :
    readWithin (depth + 1) threshold scanner =
      match readTerm depth scanner with
      | .ok left reached => readJoined depth threshold left reached
      | .error stop reached => .error stop reached := by
  rw [readWithin, Step.bind_apply]
  cases readTerm depth scanner <;> rfl

/-- Where the next token does not bind tighter than the threshold, the expression
    on the left is the answer. -/
theorem readJoined_ends {scanner : Scanner} {rest : List Token} (before : scanner.IsBefore rest) {threshold : Nat}
    (ends : Ends threshold rest) (depth : Nat) (left : Expr) :
    ∃ after, readJoined (depth + 1) threshold left scanner = .ok left after ∧ after.IsBefore rest := by
  cases rest with
  | nil =>
    obtain ⟨token, after, taken, isEnding, standing, free⟩ := Scanner.next_isBefore_nil before
    have stops : (token.precedence : Int) ≤ threshold := by rw [Token.precedence_of_isEnding isEnding]; omega
    refine ⟨{ after with held := some token }, ?_, Scanner.isBefore_hold_ending standing free isEnding⟩
    simp only [readJoined, joinOf, Step.bind_apply, taken, if_pos stops, Scanner.pushBack_eq free, Step.pure_apply]
  | cons token later =>
    obtain ⟨after, taken, standing, free⟩ := Scanner.next_isBefore_cons before
    have stops : (token.precedence : Int) ≤ threshold := by exact_mod_cast ends token rfl
    have more := before.proper token List.mem_cons_self
    refine ⟨{ after with held := some token }, ?_, Scanner.isBefore_hold standing free more⟩
    simp only [readJoined, joinOf, Step.bind_apply, taken, if_pos stops, Scanner.pushBack_eq free, Step.pure_apply]

/-- An operator that binds tighter than the threshold is joined with what stands
    on its right. -/
theorem readJoined_joins {scanner : Scanner} {sign : Token} {later : List Token}
    (before : scanner.IsBefore (sign :: later)) {threshold : Nat} {operator : Operator}
    (joins : sign.operator? = some operator) (binds : threshold < operator.precedence) (depth : Nat) (left : Expr) :
    ∃ next, next.IsBefore later ∧
      readJoined (depth + 1) threshold left scanner =
        match readWithin depth operator.rightLevel next with
        | .ok right reached => readJoined depth threshold (.binary operator left right) reached
        | .error stop reached => .error stop reached := by
  obtain ⟨after, taken, standing, _⟩ := Scanner.next_isBefore_cons before
  have tighter : ¬ (sign.precedence : Int) ≤ threshold := by
    rw [Token.precedence_of_operator? joins]
    omega
  refine ⟨after, standing, ?_⟩
  simp only [readJoined, joinOf, Step.bind_apply, taken, if_neg tighter, rightThreshold_eq joins, joins]
  cases readWithin depth operator.rightLevel after <;> rfl

/-! ### What is read is derived -/

/-- What a reader may answer before some tokens: an expression that the tokens it
    has taken derive at the level, together with those taken before. What is left
    ends the expression. -/
def Answers (level threshold : Nat) (taken tokens : List Token) : EStateM.Result Stop Scanner Expr → Prop
  | .ok expression after =>
    ∃ consumed rest, tokens = consumed ++ rest ∧ Derives level (taken ++ consumed) expression ∧
      Ends threshold rest ∧ after.IsBefore rest
  | .error _ _ => True

/-- A minus sign in the place of a term must have a numeral after it. -/
theorem derives_of_readTerm_minus {depth : Nat} {scanner : Scanner} {minus : Token} {later : List Token}
    (before : scanner.IsBefore (minus :: later)) (sign : minus.isSign "-" = true) {term : Expr} {after : Scanner}
    (read : readTerm (depth + 1) scanner = .ok term after) :
    ∃ number rest, later = number :: rest ∧ Derives 3 [minus, number] term ∧ after.IsBefore rest := by
  obtain ⟨kind, text⟩ := Token.isSign_iff.1 sign
  obtain ⟨next, taken, standing, _⟩ := Scanner.next_isBefore_cons before
  simp only [readTerm, termOf, Step.bind_apply, taken, kind, text, ↓reduceIte] at read
  cases later with
  | nil =>
    obtain ⟨token, beyond, takenNext, isEnding, _⟩ := Scanner.next_isBefore_nil standing
    have kind := Token.isEnding_iff.1 isEnding
    simp [takenNext, kind, Step.fail_apply] at read
  | cons number rest =>
    obtain ⟨beyond, takenNext, standingNext, _⟩ := Scanner.next_isBefore_cons standing
    simp only [takenNext] at read
    split_ifs at read with isNumber
    · simp [Step.fail_apply] at read
    · cases denotes : Decimal.readLiteral ("-" ++ number.text) with
      | error stop => simp [Step.bind_apply, denotes, Step.ofExcept_error] at read
      | ok value =>
        simp only [Step.bind_apply, denotes, Step.ofExcept_ok, Step.pure_apply, EStateM.Result.ok.injEq] at read
        obtain ⟨rfl, rfl⟩ := read
        exact ⟨number, rest, rfl, .negative sign (by simpa using isNumber) denotes, standingNext⟩

/-- A bracket in the place of a term must have an expression and the other bracket
    after it. -/
theorem derives_of_readTerm_opening {depth : Nat}
    (within : ∀ {scanner tokens}, scanner.IsBefore tokens → Answers 0 0 [] tokens (readWithin depth 0 scanner))
    {scanner : Scanner} {opening : Token} {later : List Token} (before : scanner.IsBefore (opening :: later))
    (opens : opening.isSign "(" = true) {term : Expr} {after : Scanner}
    (read : readTerm (depth + 1) scanner = .ok term after) :
    ∃ inner closing rest, later = inner ++ closing :: rest ∧ Derives 3 (opening :: inner ++ [closing]) term ∧
      after.IsBefore rest := by
  obtain ⟨kind, text⟩ := Token.isSign_iff.1 opens
  obtain ⟨next, taken, standing, _⟩ := Scanner.next_isBefore_cons before
  have other : ("(" = "-") = False := by decide
  simp only [readTerm, termOf, Step.bind_apply, taken, kind, text, other, ↓reduceIte] at read
  have answers := within standing
  cases whole : readWithin depth 0 next with
  | error stop reached => simp [whole] at read
  | ok expression reached =>
    simp only [whole] at answers read
    obtain ⟨inner, rest, rfl, derived, _, standingAfter⟩ := answers
    cases rest with
    | nil =>
      obtain ⟨token, beyond, takenNext, isEnding, _⟩ := Scanner.next_isBefore_nil standingAfter
      simp [takenNext, Token.isSign_of_isEnding isEnding, Step.fail_apply] at read
    | cons closing rest =>
      obtain ⟨beyond, takenNext, standingNext, _⟩ := Scanner.next_isBefore_cons standingAfter
      simp only [takenNext] at read
      split_ifs at read with closes
      · simp only [Step.pure_apply, EStateM.Result.ok.injEq] at read
        obtain ⟨rfl, rfl⟩ := read
        exact ⟨inner, closing, rest, rfl, .bracketed opens derived closes, standingNext⟩
      · simp [Step.fail_apply] at read

theorem derives_of_readTerm {depth : Nat}
    (within : ∀ {scanner tokens}, scanner.IsBefore tokens → Answers 0 0 [] tokens (readWithin depth 0 scanner))
    {scanner : Scanner} {tokens : List Token} (before : scanner.IsBefore tokens) {term : Expr} {after : Scanner}
    (read : readTerm (depth + 1) scanner = .ok term after) :
    ∃ consumed rest, tokens = consumed ++ rest ∧ Derives 3 consumed term ∧ after.IsBefore rest := by
  cases tokens with
  | nil =>
    obtain ⟨token, next, taken, isEnding, _⟩ := Scanner.next_isBefore_nil before
    have kind := Token.isEnding_iff.1 isEnding
    simp [readTerm, termOf, Step.bind_apply, taken, kind, Step.fail_apply] at read
  | cons token later =>
    obtain ⟨next, taken, standing, _⟩ := Scanner.next_isBefore_cons before
    cases kind : token.kind with
    | word =>
      simp only [readTerm, termOf, Step.bind_apply, taken, kind] at read
      split_ifs at read with known
      · simp [Step.fail_apply] at read
      · simp only [Step.pure_apply, EStateM.Result.ok.injEq] at read
        obtain ⟨rfl, rfl⟩ := read
        exact ⟨[token], later, rfl, .identifier kind (by simpa using known), standing⟩
    | number =>
      simp only [readTerm, termOf, Step.bind_apply, taken, kind] at read
      cases denotes : Decimal.readLiteral token.text with
      | error stop => simp [denotes, Step.ofExcept_error] at read
      | ok value =>
        simp only [denotes, Step.ofExcept_ok, Step.pure_apply, EStateM.Result.ok.injEq] at read
        obtain ⟨rfl, rfl⟩ := read
        exact ⟨[token], later, rfl, .numeral kind denotes, standing⟩
    | operator =>
      by_cases minus : token.text = "-"
      · obtain ⟨number, rest, rfl, derived, standing⟩ :=
          derives_of_readTerm_minus before (Token.isSign_iff.2 ⟨kind, minus⟩) read
        exact ⟨[token, number], rest, rfl, derived, standing⟩
      · by_cases opens : token.text = "("
        · obtain ⟨inner, closing, rest, rfl, derived, standing⟩ :=
            derives_of_readTerm_opening within before (Token.isSign_iff.2 ⟨kind, opens⟩) read
          exact ⟨token :: inner ++ [closing], rest, by simp, derived, standing⟩
        · simp [readTerm, termOf, Step.bind_apply, taken, kind, minus, opens, Step.fail_apply] at read
    | ending | other name => simp [readTerm, termOf, Step.bind_apply, taken, kind, Step.fail_apply] at read

/-- Joining goes on from an expression that is derived at a level which suits the
    threshold and what follows. The answer is derived with the tokens before. -/
theorem answers_readJoined {depth : Nat}
    (within : ∀ (threshold : Nat) {scanner tokens}, scanner.IsBefore tokens →
      Answers (min threshold 3) threshold [] tokens (readWithin depth threshold scanner))
    (joined : ∀ (threshold : Nat) {level scanner tokens taken left}, scanner.IsBefore tokens →
      Derives level taken left → min threshold 3 ≤ level → Suits level tokens →
      Answers (min threshold 3) threshold taken tokens (readJoined depth threshold left scanner))
    (threshold : Nat) {level : Nat} {scanner : Scanner} {tokens taken : List Token} {left : Expr}
    (before : scanner.IsBefore tokens) (derived : Derives level taken left) (high : min threshold 3 ≤ level)
    (suits : Suits level tokens) :
    Answers (min threshold 3) threshold taken tokens (readJoined (depth + 1) threshold left scanner) := by
  by_cases ends : Ends threshold tokens
  · obtain ⟨after, answered, standing⟩ := readJoined_ends before ends depth left
    rw [answered]
    exact ⟨[], tokens, rfl, by simpa using derived.lower high, ends, standing⟩
  · simp only [Ends, Option.mem_def, not_forall, not_le] at ends
    obtain ⟨sign, first, binds⟩ := ends
    obtain ⟨later, rfl⟩ := List.head?_eq_some_iff.1 first
    obtain ⟨operator, joins⟩ := Token.operator?_of_precedence (Nat.lt_of_le_of_lt (Nat.zero_le _) binds)
    rw [Token.precedence_of_operator? joins] at binds
    obtain ⟨next, standing, steps⟩ := readJoined_joins before joins binds depth left
    rw [steps]
    have answers := within operator.rightLevel standing
    cases operand : readWithin depth operator.rightLevel next with
    | error stop reached => trivial
    | ok right reached =>
      rw [operand, min_eq_left operator.rightLevel_le_three] at answers
      obtain ⟨consumed, rest, rfl, derivedRight, endsRight, standingAfter⟩ := answers
      have fits := derived.lower (suits sign rfl operator joins)
      have going := joined threshold standingAfter (fits.join joins derivedRight)
        ((min_le_left _ _).trans (Nat.le_sub_one_of_lt binds)) ((ends_rightLevel_iff operator rest).1 endsRight)
      dsimp only
      cases result : readJoined depth threshold (.binary operator left right) reached with
      | error stop last => trivial
      | ok whole last =>
        rw [result] at going
        obtain ⟨others, rest, rfl, derivedWhole, endsWhole, standingLast⟩ := going
        exact ⟨sign :: consumed ++ others, rest, by simp, by simpa using derivedWhole, endsWhole, standingLast⟩

theorem answers_readWithin (depth : Nat) :
    (∀ (threshold : Nat) {scanner tokens}, Scanner.IsBefore scanner tokens →
      Answers (min threshold 3) threshold [] tokens (readWithin depth threshold scanner)) ∧
    (∀ (threshold : Nat) {level scanner tokens taken left}, Scanner.IsBefore scanner tokens →
      Derives level taken left → min threshold 3 ≤ level → Suits level tokens →
      Answers (min threshold 3) threshold taken tokens (readJoined depth threshold left scanner)) := by
  -- A term calls for brackets two depths below, so the claims of all lower depths are kept.
  induction depth using Nat.strong_induction_on with
  | _ depth ih =>
    cases depth with
    | zero => exact ⟨fun _ _ _ _ => trivial, fun _ _ _ _ _ _ _ _ _ _ => trivial⟩
    | succ depth =>
      obtain ⟨within, joined⟩ := ih depth (Nat.lt_succ_self depth)
      refine ⟨?_, answers_readJoined within joined⟩
      intro threshold scanner tokens before
      rw [readWithin_succ]
      cases term : readTerm depth scanner with
      | error stop reached => trivial
      | ok left reached =>
        cases depth with
        | zero => cases term
        | succ below =>
          obtain ⟨brackets, _⟩ := ih below (by omega)
          obtain ⟨consumed, rest, rfl, derived, standing⟩ :=
            derives_of_readTerm (brackets 0) before term
          have going := joined threshold standing derived (min_le_right _ _) (suits_three rest)
          dsimp only
          cases result : readJoined (below + 1) threshold left reached with
          | error stop last => trivial
          | ok whole last =>
            rw [result] at going
            obtain ⟨others, rest, rfl, derivedWhole, ends, standingLast⟩ := going
            exact ⟨consumed ++ others, rest, by simp, derivedWhole, ends, standingLast⟩

/-! ### What is derived is read -/

/-- Wherever the tokens come next and what follows them suits the level, reading
    comes to the expression and goes on joining from there. The depth that is
    spent on the way is at most twice the number of tokens. -/
def Leads (level : Nat) (tokens : List Token) (expression : Expr) : Prop :=
  ∀ ⦃rest : List Token⦄ ⦃scanner : Scanner⦄ ⦃depth threshold : Nat⦄, scanner.IsBefore (tokens ++ rest) →
    Suits level rest → min threshold 3 ≤ level → 2 * tokens.length + 2 ≤ depth →
    ∃ left after, readWithin depth threshold scanner = readJoined left threshold expression after ∧
      after.IsBefore rest ∧ depth ≤ left + 2 * tokens.length

/-- Where what follows also ends the expression, it is the answer. -/
theorem Leads.answers {level : Nat} {tokens : List Token} {expression : Expr} (leads : Leads level tokens expression)
    (depth threshold : Nat) {rest : List Token} {scanner : Scanner} (before : scanner.IsBefore (tokens ++ rest))
    (suits : Suits level rest) (high : min threshold 3 ≤ level) (enough : 2 * tokens.length + 2 ≤ depth)
    (ends : Ends threshold rest) :
    ∃ after, readWithin depth threshold scanner = .ok expression after ∧ after.IsBefore rest := by
  obtain ⟨left, reached, going, standing, spent⟩ := leads before suits high enough
  obtain ⟨more, rfl⟩ : ∃ more, left = more + 1 := ⟨left - 1, by omega⟩
  rw [going]
  exact readJoined_ends standing ends more expression

theorem Leads.lower {level lower : Nat} {tokens : List Token} {expression : Expr} (leads : Leads level tokens expression)
    (below : lower ≤ level) : Leads lower tokens expression :=
  fun _ _ _ _ before suits high enough => leads before (suits.mono below) (high.trans below) enough

theorem Leads.ofTerm {tokens : List Token} {term : Expr} (some : tokens ≠ [])
    (read : ∀ {rest : List Token} {scanner : Scanner} {depth : Nat}, scanner.IsBefore (tokens ++ rest) →
      2 * tokens.length + 1 ≤ depth → ∃ after, readTerm depth scanner = .ok term after ∧ after.IsBefore rest) :
    Leads 3 tokens term := by
  intro rest scanner depth threshold before _ _ enough
  obtain ⟨more, rfl⟩ : ∃ more, depth = more + 1 := ⟨depth - 1, by omega⟩
  obtain ⟨after, answered, standing⟩ := read before (by omega : 2 * tokens.length + 1 ≤ more)
  have counted := List.length_pos_iff.2 some
  refine ⟨more, after, ?_, standing, by omega⟩
  rw [readWithin_succ, answered]

theorem Leads.join (operator : Operator) {sign : Token} {before after : List Token} {left right : Expr}
    (first : Leads operator.leftLevel before left) (joins : sign.operator? = some operator)
    (second : Leads operator.rightLevel after right) :
    Leads (operator.precedence - 1) (before ++ sign :: after) (.binary operator left right) := by
  intro rest scanner depth threshold standing suits high enough
  have positive := operator.one_le_precedence
  have small := operator.precedence_le_three
  simp only [List.append_assoc, List.cons_append, List.length_append, List.length_cons] at standing enough
  have suitsSign : Suits operator.leftLevel (sign :: (after ++ rest)) := by
    intro token member other found
    simp only [List.head?_cons, Option.mem_def, Option.some.injEq] at member
    subst member
    rw [joins] at found
    exact (congrArg Operator.leftLevel (Option.some.inj found)).ge
  have lowest : operator.precedence - 1 ≤ operator.leftLevel := by
    rcases operator with _ | (_ | _ | _ | _) <;> decide
  have enoughFirst : 2 * before.length + 2 ≤ depth := by omega
  obtain ⟨spare, reached, going, standingSign, spent⟩ := first standing suitsSign (high.trans lowest) enoughFirst
  obtain ⟨more, rfl⟩ : ∃ more, spare = more + 1 := ⟨spare - 1, by omega⟩
  obtain ⟨next, standingRight, steps⟩ := readJoined_joins standingSign joins (by omega : threshold < _) more left
  have ends := (ends_rightLevel_iff operator rest).2 suits
  obtain ⟨last, answered, standingRest⟩ := second.answers more operator.rightLevel
    standingRight (suits.mono operator.precedence_le_rightLevel) (min_le_left _ _) (by omega) ends
  refine ⟨more, last, ?_, standingRest, by simp only [List.length_append, List.length_cons]; omega⟩
  rw [going, steps, answered]

theorem leads_of_derives {level : Nat} {tokens : List Token} {expression : Expr}
    (derived : Derives level tokens expression) : Leads level tokens expression := by
  induction derived with
  | @identifier word kind free =>
    refine Leads.ofTerm (by simp) ?_
    intro rest scanner depth before enough
    obtain ⟨more, rfl⟩ : ∃ more, depth = more + 1 := ⟨depth - 1, by omega⟩
    obtain ⟨after, taken, standing, _⟩ := Scanner.next_isBefore_cons before
    refine ⟨after, ?_, standing⟩
    have unknown : reserved.contains word.text = false := by simpa using free
    simp only [readTerm, termOf, Step.bind_apply, taken, kind, unknown, Bool.false_eq_true, ↓reduceIte, Step.pure_apply]
  | @numeral number value kind denotes =>
    refine Leads.ofTerm (by simp) ?_
    intro rest scanner depth before enough
    obtain ⟨more, rfl⟩ : ∃ more, depth = more + 1 := ⟨depth - 1, by omega⟩
    obtain ⟨after, taken, standing, _⟩ := Scanner.next_isBefore_cons before
    refine ⟨after, ?_, standing⟩
    simp only [readTerm, termOf, Step.bind_apply, taken, kind, denotes, Step.ofExcept_ok, Step.pure_apply]
  | @negative minus number value sign kind denotes =>
    refine Leads.ofTerm (by simp) ?_
    intro rest scanner depth before enough
    obtain ⟨more, rfl⟩ : ∃ more, depth = more + 1 := ⟨depth - 1, by omega⟩
    obtain ⟨operatorKind, text⟩ := Token.isSign_iff.1 sign
    obtain ⟨next, taken, standingNext, _⟩ := Scanner.next_isBefore_cons before
    obtain ⟨after, takenNext, standing, _⟩ := Scanner.next_isBefore_cons standingNext
    refine ⟨after, ?_, standing⟩
    simp only [readTerm, termOf, Step.bind_apply, taken, operatorKind, text, ↓reduceIte, takenNext, kind, ne_eq,
      not_true_eq_false, denotes, Step.ofExcept_ok, Step.pure_apply]
  | @bracketed opening closing tokens inner opens whole closes ih =>
    refine Leads.ofTerm (by simp) ?_
    intro rest scanner depth before enough
    obtain ⟨more, rfl⟩ : ∃ more, depth = more + 1 := ⟨depth - 1, by omega⟩
    obtain ⟨kind, text⟩ := Token.isSign_iff.1 opens
    have other : ("(" = "-") = False := by decide
    simp only [List.append_assoc, List.cons_append, List.nil_append, List.length_append, List.length_cons,
      List.length_nil] at before enough
    obtain ⟨next, taken, standingNext, _⟩ := Scanner.next_isBefore_cons before
    have closingBinds : closing.operator? = none := by
      obtain ⟨closingKind, closingText⟩ := Token.isSign_iff.1 closes
      simp only [Token.operator?, closingKind, closingText, ↓reduceIte]
      decide
    have ends : Ends 0 (closing :: rest) := by
      intro token member
      simp only [List.head?_cons, Option.mem_def, Option.some.injEq] at member
      simp [← member, Token.precedence, closingBinds]
    obtain ⟨reached, answered, standingClosing⟩ := ih.answers more 0 standingNext ends.suits
      (min_le_left _ _) (by omega) ends
    obtain ⟨after, takenClosing, standing, _⟩ := Scanner.next_isBefore_cons standingClosing
    refine ⟨after, ?_, standing⟩
    have answeredWhole : readWithin more 0 next = .ok inner reached := answered
    simp only [readTerm, termOf, Step.bind_apply, taken, kind, text, other, ↓reduceIte, answeredWhole, takenClosing,
      closes, Step.pure_apply]
  | ofTerm _ ih | ofProduct _ ih | ofSum _ ih => exact ih.lower (by omega)
  | @product sign operation before after left right _ multiplies joins _ first second =>
    have found := Token.operator?_eq_some_iff.2 joins
    rcases multiplies with rfl | rfl
    · exact Leads.join (.arithmetic .multiply) first found second
    · exact Leads.join (.arithmetic .divide) first found second
  | @sum sign operation before after left right _ adds joins _ first second =>
    have found := Token.operator?_eq_some_iff.2 joins
    rcases adds with rfl | rfl
    · exact Leads.join (.arithmetic .add) first found second
    · exact Leads.join (.arithmetic .subtract) first found second
  | assignment _ joins _ first second =>
    exact Leads.join .assign first (Token.operator?_eq_some_iff.2 joins) second

/-! ### Whole readings -/

theorem read_apply (threshold : Int) (scanner : Scanner) :
    read threshold scanner = readWithin (depthFor scanner) threshold scanner := by
  simp only [read, Step.bind_apply, Step.get_apply]

theorem read_of_derives (threshold : Nat) {tokens rest : List Token} {expression : Expr}
    (derived : Derives (min threshold 3) tokens expression) (ends : Ends threshold rest) {scanner : Scanner}
    (before : scanner.IsBefore (tokens ++ rest)) :
    ∃ after, read threshold scanner = .ok expression after ∧ after.IsBefore rest := by
  have counted := Scanner.length_le_size before
  rw [List.length_append] at counted
  have enough : 2 * tokens.length + 2 ≤ depthFor scanner := by rw [depthFor]; omega
  rw [read_apply]
  exact (leads_of_derives derived).answers _ _ before ends.suits le_rfl enough ends

theorem derives_of_read (threshold : Nat) {tokens : List Token} {scanner after : Scanner} {expression : Expr}
    (before : scanner.IsBefore tokens) (answered : read threshold scanner = .ok expression after) :
    ∃ consumed rest, tokens = consumed ++ rest ∧ Derives (min threshold 3) consumed expression ∧
      Ends threshold rest ∧ after.IsBefore rest := by
  have answers := (answers_readWithin (depthFor scanner)).1 threshold before
  rw [← read_apply, answered] at answers
  simpa only [Answers, List.nil_append] using answers

/-- A whole reading answers exactly with what all the tokens derive. -/
theorem readAll_iff_derives {scanner : Scanner} {tokens : List Token} (before : scanner.IsBefore tokens)
    (expression : Expr) :
    (∃ after, readAll scanner = .ok expression after) ↔ Derives 0 tokens expression := by
  constructor
  · rintro ⟨after, answered⟩
    simp only [readAll, Step.bind_apply] at answered
    cases first : read 0 scanner with
    | error stop reached => simp [first] at answered
    | ok whole reached =>
      obtain ⟨consumed, rest, rfl, derived, _, standing⟩ := derives_of_read 0 before first
      obtain ⟨last, asked, _⟩ := Scanner.hasMore_isBefore standing
      simp only [first, asked] at answered
      cases rest with
      | cons token later => simp [Step.fail_apply] at answered
      | nil =>
        simp only [List.isEmpty_nil, Bool.not_true, Bool.false_eq_true, ↓reduceIte, Step.pure_apply,
          EStateM.Result.ok.injEq] at answered
        rw [← answered.1, List.append_nil]
        exact derived
  · intro derived
    have ends : Ends 0 [] := by simp [Ends]
    obtain ⟨reached, first, standing⟩ := read_of_derives 0 derived ends (by simpa using before)
    obtain ⟨last, asked, _⟩ := Scanner.hasMore_isBefore standing
    have firstZero : read 0 scanner = .ok expression reached := first
    refine ⟨last, ?_⟩
    simp only [readAll, Step.bind_apply, firstZero, asked, List.isEmpty_nil, Bool.not_true, Bool.false_eq_true,
      ↓reduceIte, Step.pure_apply]

theorem ofTokens_iff_derives {tokens : List Token} (proper : ∀ token ∈ tokens, token.isEnding = false)
    (expression : Expr) : ofTokens tokens = .ok expression ↔ Derives 0 tokens expression := by
  rw [← readAll_iff_derives (Scanner.isBefore_ofTokens proper), ofTokens, Step.isolated]
  cases readAll (Scanner.ofTokens tokens) <;> simp

theorem ofText_iff_derives (text : String) (expression : Expr) :
    ofText text = .ok expression ↔ Derives 0 (Lexer.tokens text.toList) expression := by
  rw [← readAll_iff_derives (Scanner.isBefore_ofText text), ofText, Step.isolated]
  cases readAll (Scanner.ofText text) <;> simp

/-- At most one expression is derived by given tokens at a level. -/
theorem derives_unique {level : Nat} {tokens : List Token} {first second : Expr} (one : Derives level tokens first)
    (other : Derives level tokens second) : first = second := by
  have before := Scanner.isBefore_ofTokens (one.isEnding_eq_false)
  have whole : min level 3 = level := min_eq_left one.le_three
  have ends : Ends level [] := by simp [Ends]
  rw [← whole] at one other
  rw [← List.append_nil tokens] at before
  obtain ⟨_, answered, _⟩ := read_of_derives level one ends before
  obtain ⟨_, again, _⟩ := read_of_derives level other ends before
  rw [answered, EStateM.Result.ok.injEq] at again
  exact again.1

/-- A scanner over a list of tokens reads an expression and leaves the rest exactly
    where the list is a derivation at the level of the threshold, followed by a rest
    that begins with nothing that binds tighter. The tokens are read as a whole
    exactly where all of them are a derivation, and no derivation has two trees. -/
theorem read_iff_derives {tokens : List Token} (proper : ∀ token ∈ tokens, token.isEnding = false) :
    (∀ (threshold : Nat) (expression : Expr) (rest : List Token),
      (∃ after last, read threshold (Scanner.ofTokens tokens) = .ok expression after ∧
        Scanner.remaining after = .ok rest last) ↔
      ∃ consumed, tokens = consumed ++ rest ∧ Derives (min threshold 3) consumed expression ∧
        ∀ token ∈ rest.head?, token.precedence ≤ threshold) ∧
    (∀ expression, ofTokens tokens = .ok expression ↔ Derives 0 tokens expression) ∧
    ∀ level first second, Derives level tokens first → Derives level tokens second → first = second := by
  refine ⟨?_, ofTokens_iff_derives proper, fun _ _ _ => derives_unique⟩
  intro threshold expression rest
  have before := Scanner.isBefore_ofTokens proper
  constructor
  · rintro ⟨after, last, answered, drained⟩
    obtain ⟨consumed, left, split, derived, ends, standing⟩ := derives_of_read threshold before answered
    obtain ⟨beyond, taken⟩ := Scanner.remaining_isBefore standing
    rw [taken, EStateM.Result.ok.injEq] at drained
    obtain ⟨rfl, _⟩ := drained
    exact ⟨consumed, split, derived, ends⟩
  · rintro ⟨consumed, rfl, derived, ends⟩
    obtain ⟨after, answered, standing⟩ := read_of_derives threshold derived ends before
    obtain ⟨last, drained⟩ := Scanner.remaining_isBefore standing
    exact ⟨after, last, answered, drained⟩

/-- `a = 1 + -2 * b )` is read as far as the bracket. -/
theorem read_assignment_before_bracket :
    (∀ token ∈ [⟨.word, "a"⟩, ⟨.operator, "="⟩, ⟨.number, "1"⟩, ⟨.operator, "+"⟩, ⟨.operator, "-"⟩, ⟨.number, "2"⟩,
      ⟨.operator, "*"⟩, ⟨.word, "b"⟩, (⟨.operator, ")"⟩ : Token)], token.isEnding = false) ∧
    ∃ after last,
      read 0 (Scanner.ofTokens [⟨.word, "a"⟩, ⟨.operator, "="⟩, ⟨.number, "1"⟩, ⟨.operator, "+"⟩, ⟨.operator, "-"⟩,
        ⟨.number, "2"⟩, ⟨.operator, "*"⟩, ⟨.word, "b"⟩, ⟨.operator, ")"⟩]) =
        .ok (.binary .assign (.identifier "a") (.binary (.arithmetic .add) (.constant 1)
          (.binary (.arithmetic .multiply) (.constant (-2)) (.identifier "b")))) after ∧
      Scanner.remaining after = .ok [⟨.operator, ")"⟩] last := by
  have proper : ∀ token ∈ [⟨.word, "a"⟩, ⟨.operator, "="⟩, ⟨.number, "1"⟩, ⟨.operator, "+"⟩, ⟨.operator, "-"⟩,
      ⟨.number, "2"⟩, ⟨.operator, "*"⟩, ⟨.word, "b"⟩, (⟨.operator, ")"⟩ : Token)], token.isEnding = false := by decide
  refine ⟨proper, ((read_iff_derives proper).1 0 _ _).2 ⟨[⟨.word, "a"⟩, ⟨.operator, "="⟩, ⟨.number, "1"⟩,
    ⟨.operator, "+"⟩, ⟨.operator, "-"⟩, ⟨.number, "2"⟩, ⟨.operator, "*"⟩, ⟨.word, "b"⟩], rfl, ?_, by decide⟩⟩
  have a : Derives 1 [⟨.word, "a"⟩] (.identifier "a") := .ofProduct (.ofTerm (.identifier rfl (by decide)))
  have one : Derives 1 [⟨.number, "1"⟩] (.constant 1) := .ofProduct (.ofTerm (.numeral rfl (by decide)))
  have two : Derives 2 [⟨.operator, "-"⟩, ⟨.number, "2"⟩] (.constant (-2)) :=
    .ofTerm (.negative (by decide) rfl (by decide))
  have b : Derives 3 [⟨.word, "b"⟩] (.identifier "b") := .identifier rfl (by decide)
  have times : (⟨.operator, "*"⟩ : Token).isSign (Operator.arithmetic .multiply).sign = true := by decide
  have plus : (⟨.operator, "+"⟩ : Token).isSign (Operator.arithmetic .add).sign = true := by decide
  have equals : (⟨.operator, "="⟩ : Token).isSign Operator.assign.sign = true := by decide
  exact .assignment a equals (.ofSum (.sum one (.inl rfl) plus (.product two (.inl rfl) times b)))

end Expr

end LineBasic
