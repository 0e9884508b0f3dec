import Mathlib
import LineBasic.Proofs.Expr.Scan
import LineBasic.Proofs.Token.Lexed
import LineBasic.Statement.Operands

/-!
What the operands of a statement are, in terms of the tokens of its text. The
first token is skipped (`after_eq`), and each kind of operands is read exactly
where the other tokens have its form. An expression among them is read as it is from
a list of its tokens (`after_readAll`).
-/
namespace LineBasic

namespace Operands

/-- The tokens of a text after the first. -/
def operandTokens (text : String) : List Token := (Lexer.tokens text.toList).tail

theorem lexed_of_mem_operandTokens {text : String} {token : Token} (member : token ∈ operandTokens text) :
    token.Lexed :=
  Lexer.lexed_of_mem_tokens (List.mem_of_mem_tail member)

theorem isEnding_of_mem_operandTokens {text : String} {token : Token} (member : token ∈ operandTokens text) :
    token.isEnding = false :=
  Lexer.isEnding_of_mem_tokens (List.mem_of_mem_tail member)

/-- Operands are read from a scanner before the tokens that follow the first. -/
theorem after_eq (text : String) :
    ∃ scanner : Scanner, scanner.IsBefore (operandTokens text) ∧
      ∀ {α : Type} (reader : Step Scanner α), after reader text = reader.isolated scanner := by
  have before := Scanner.isBefore_ofText text
  unfold operandTokens
  cases listed : Lexer.tokens text.toList with
  | nil =>
    rw [listed] at before
    obtain ⟨token, scanner, taken, _, standing, _⟩ := Scanner.next_isBefore_nil before
    exact ⟨scanner, standing, fun reader => by simp only [after, Step.isolated, Step.bind_apply, taken]⟩
  | cons token later =>
    rw [listed] at before
    obtain ⟨scanner, taken, standing, _⟩ := Scanner.next_isBefore_cons before
    exact ⟨scanner, standing, fun reader => by simp only [after, Step.isolated, Step.bind_apply, taken]⟩

/-- A reader that answers exactly with what satisfies a condition on the tokens
    before which it stands reads the operands that satisfy it. -/
theorem after_iff {α : Type} {reader : Step Scanner α} (reads : List Token → α → Prop)
    (spec : ∀ {scanner : Scanner} {tokens : List Token}, scanner.IsBefore tokens →
      ∀ answer, (∃ reached, reader scanner = .ok answer reached) ↔ reads tokens answer)
    (text : String) (answer : α) : after reader text = .ok answer ↔ reads (operandTokens text) answer := by
  obtain ⟨scanner, before, same⟩ := after_eq text
  rw [same, ← spec before, Step.isolated]
  cases reader scanner <;> simp

theorem after_remaining (text : String) : after Scanner.remaining text = .ok (operandTokens text) := by
  obtain ⟨scanner, before, same⟩ := after_eq text
  obtain ⟨reached, taken⟩ := Scanner.remaining_isBefore before
  rw [same, Step.isolated, taken]

/-- An operand is read as the list of its tokens is. -/
theorem after_readAll (text : String) : after Expr.readAll text = Expr.ofTokens (operandTokens text) := by
  obtain ⟨scanner, before, same⟩ := after_eq text
  have listed := Scanner.isBefore_ofTokens fun token (member : token ∈ operandTokens text) =>
    isEnding_of_mem_operandTokens member
  rw [same]
  exact Expr.isolated_readAll_eq before listed

theorem after_readAll_iff (text : String) (expression : Expr) :
    after Expr.readAll text = .ok expression ↔ Derives 0 (operandTokens text) expression := by
  rw [after_readAll, Expr.ofTokens_iff_derives fun token => isEnding_of_mem_operandTokens]

/-- One token alone is read as a number, whatever it is. -/
theorem after_target {text : String} {token : Token} (listed : operandTokens text = [token]) :
    after target text = Decimal.readLiteral token.text := by
  obtain ⟨scanner, before, same⟩ := after_eq text
  rw [listed] at before
  obtain ⟨reached, taken, standing, _⟩ := Scanner.next_isBefore_cons before
  obtain ⟨last, asked, _⟩ := Scanner.hasMore_isBefore standing
  rw [same]
  unfold Step.isolated target
  rw [Step.bind_apply, taken]
  dsimp only
  cases Decimal.readLiteral token.text with
  | error stop => rfl
  | ok number =>
    simp only [Step.bind_apply, Step.ofExcept_ok, asked]
    rfl

/-- Without operands, the ending is read, which is no number. -/
theorem after_target_of_nil {text : String} (nothing : operandTokens text = []) :
    after target text = .error (.fault .invalidNumber) := by
  obtain ⟨first, skipped, left, _⟩ := Scanner.next_eq (Scanner.ofText text)
  have ahead : first.ahead = [] := by
    rw [left, ← nothing, operandTokens]
    simp [Scanner.ahead, Scanner.ofText, TokenSource.left, CharStream.ofText]
  obtain ⟨second, taken, _⟩ := Scanner.next_eq first
  rw [ahead] at taken
  unfold after target Step.isolated
  simp only [Step.bind_apply, skipped, taken]
  rfl

/-- A target is one token, which must be a number. -/
theorem after_target_iff (text : String) (number : Int) :
    after target text = .ok number ↔
      ∃ token, operandTokens text = [token] ∧ Decimal.readLiteral token.text = .ok number := by
  constructor
  · intro answered
    rcases listed : operandTokens text with _ | ⟨token, _ | ⟨more, later⟩⟩
    · rw [after_target_of_nil listed] at answered
      cases answered
    · exact ⟨token, rfl, by rwa [after_target listed] at answered⟩
    · obtain ⟨scanner, before, same⟩ := after_eq text
      rw [listed] at before
      obtain ⟨reached, taken, standing, _⟩ := Scanner.next_isBefore_cons before
      obtain ⟨last, asked, _⟩ := Scanner.hasMore_isBefore standing
      rw [same] at answered
      unfold Step.isolated target at answered
      cases read : Decimal.readLiteral token.text <;>
        simp [Step.bind_apply, taken, read, Step.ofExcept_ok, Step.ofExcept_error, asked, Step.fail_apply] at answered
  · rintro ⟨token, listed, read⟩
    rw [after_target listed, read]

/-- After a variable and `=`, what is read is the expression. -/
theorem after_assignment {text name : String} {source : List Token}
    (listed : operandTokens text = ⟨.word, name⟩ :: ⟨.operator, "="⟩ :: source) (identifies : isIdentifier name = true) :
    after assignment text = (Expr.ofTokens source).map fun expression => (name, expression) := by
  obtain ⟨scanner, before, same⟩ := after_eq text
  rw [listed] at before
  obtain ⟨next, taken, standing, _⟩ := Scanner.next_isBefore_cons before
  obtain ⟨last, takenSign, standing, _⟩ := Scanner.next_isBefore_cons standing
  have named : Token.isVariable ⟨.word, name⟩ = true := by
    rw [Token.isVariable, identifies]
    rfl
  have reads : Expr.readAll.isolated last = Expr.ofTokens source :=
    Expr.isolated_readAll_eq standing (Scanner.isBefore_ofTokens standing.proper)
  rw [same, ← reads]
  unfold Step.isolated assignment variableName
  have joins : Token.isSign ⟨.operator, "="⟩ "=" = true := rfl
  simp only [Step.bind_apply, taken, named, ↓reduceIte, Step.pure_apply, takenSign, joins, Stack.read_unbounded]
  cases Expr.readAll last with
  | ok expression => rfl
  | error stop => rfl

/-- The name of a variable is read where a token that can name one comes next. -/
theorem variableName_eq {scanner : Scanner} {tokens : List Token} (before : scanner.IsBefore tokens) :
    (∃ target later reached, tokens = target :: later ∧ target.isVariable = true ∧
      variableName scanner = .ok target.text reached ∧ reached.IsBefore later) ∨
    ((∀ target later, tokens = target :: later → target.isVariable = false) ∧
      ∃ reached, variableName scanner = .error (.fault .malformed) reached) := by
  cases tokens with
  | nil =>
    obtain ⟨token, reached, taken, ends, _⟩ := Scanner.next_isBefore_nil before
    have other : token.isVariable = false := by
      rw [Token.isEnding, beq_iff_eq] at ends
      simp [Token.isVariable, ends]
    refine .inr ⟨by simp, reached, ?_⟩
    simp only [variableName, Step.bind_apply, taken, other, Bool.false_eq_true, ↓reduceIte, Step.fail_apply]
  | cons token later =>
    obtain ⟨reached, taken, standing, _⟩ := Scanner.next_isBefore_cons before
    cases named : token.isVariable with
    | true =>
      refine .inl ⟨token, later, reached, rfl, named, ?_, standing⟩
      simp only [variableName, Step.bind_apply, taken, named, ↓reduceIte, Step.pure_apply]
    | false =>
      refine .inr ⟨by simp [named], reached, ?_⟩
      simp only [variableName, Step.bind_apply, taken, named, Bool.false_eq_true, ↓reduceIte, Step.fail_apply]

/-- An assignment is a variable, `=` and an expression. -/
theorem after_assignment_iff (text : String) (answer : String × Expr) :
    after assignment text = .ok answer ↔
      ∃ target sign source, operandTokens text = target :: sign :: source ∧ target.isVariable = true ∧
        target.text = answer.1 ∧ sign.isSign "=" = true ∧ Derives 0 source answer.2 := by
  refine after_iff (fun tokens answer => ∃ target sign source, tokens = target :: sign :: source ∧
    target.isVariable = true ∧ target.text = answer.1 ∧ sign.isSign "=" = true ∧ Derives 0 source answer.2)
    (fun {scanner tokens} before answer => ?_) text answer
  obtain ⟨name, expression⟩ := answer
  rcases variableName_eq before with ⟨target, later, reached, rfl, named, read, standing⟩ | ⟨unnamed, reached, read⟩
  · cases later with
    | nil =>
      obtain ⟨token, last, taken, ends, _⟩ := Scanner.next_isBefore_nil standing
      have other : token.isSign "=" = false := by
        rw [Token.isEnding, beq_iff_eq] at ends
        simp [Token.isSign, ends]
      simp [assignment, Step.bind_apply, read, taken, other, Step.fail_apply]
    | cons sign source =>
      obtain ⟨last, taken, standing, _⟩ := Scanner.next_isBefore_cons standing
      have whole := Expr.readAll_iff_derives standing expression
      cases joins : sign.isSign "=" with
      | false => simp [assignment, Step.bind_apply, read, taken, joins, Step.fail_apply]
      | true =>
        simp only [assignment, Step.bind_apply, read, taken, joins, ↓reduceIte, Stack.read_unbounded]
        cases answered : Expr.readAll last <;> simp_all [Step.pure_apply]
  · constructor
    · rintro ⟨_, answered⟩
      simp [assignment, Step.bind_apply, read] at answered
    · rintro ⟨target, sign, source, rfl, named, _⟩
      exact absurd named (by simp [unnamed target _ rfl])

/-- What a value is asked for is one variable alone. -/
theorem after_onlyVariable_iff (text : String) (name : String) :
    after onlyVariable text = .ok name ↔
      ∃ target, operandTokens text = [target] ∧ target.isVariable = true ∧ target.text = name := by
  refine after_iff (fun tokens name => ∃ target, tokens = [target] ∧ target.isVariable = true ∧
    target.text = name) (fun {scanner tokens} before name => ?_) text name
  rcases variableName_eq before with ⟨target, later, reached, rfl, named, read, standing⟩ | ⟨unnamed, reached, read⟩
  · obtain ⟨last, asked, _⟩ := Scanner.hasMore_isBefore standing
    cases later <;> simp [onlyVariable, Step.bind_apply, read, asked, named, Step.pure_apply, Step.fail_apply]
  · constructor
    · rintro ⟨_, answered⟩
      simp [onlyVariable, Step.bind_apply, read] at answered
    · rintro ⟨target, rfl, named, _⟩
      exact absurd named (by simp [unnamed target _ rfl])

end Operands

namespace Branch

/-- The first relation parts the tokens. -/
theorem splitRelation_eq_some_iff {tokens left later : List Token} {relation : Relation} :
    splitRelation tokens = some (left, relation, later) ↔
      ∃ sign, tokens = left ++ sign :: later ∧ sign.relation? = some relation ∧ ∀ token ∈ left, token.isRelation = false := by
  induction tokens generalizing left with
  | nil => simp [splitRelation]
  | cons first rest ih =>
    unfold splitRelation
    cases here : first.relation? with
    | some found =>
      have relates : first.isRelation = true := by simp [Token.isRelation, here]
      constructor
      · intro parted
        cases parted
        exact ⟨first, rfl, here, by simp⟩
      · rintro ⟨sign, split, found', plain⟩
        cases left with
        | nil =>
          cases split
          rw [here] at found'
          cases found'
          rfl
        | cons token left =>
          cases split
          exact absurd relates (by simp [plain first List.mem_cons_self])
    | none =>
      have plain : first.isRelation = false := by simp [Token.isRelation, here]
      cases left with
      | nil => simp [here]
      | cons token left =>
        simp only [Option.map_eq_some_iff, Prod.exists, Prod.mk.injEq, List.cons.injEq, List.cons_append,
          List.forall_mem_cons]
        constructor
        · rintro ⟨left', relation', later', split, ⟨rfl, rfl⟩, rfl, rfl⟩
          obtain ⟨sign, rfl, relates, others⟩ := ih.1 split
          exact ⟨sign, ⟨rfl, rfl⟩, relates, plain, others⟩
        · rintro ⟨sign, ⟨rfl, rfl⟩, relates, _, others⟩
          exact ⟨left, relation, later, ih.2 ⟨sign, rfl, relates, others⟩, ⟨rfl, rfl⟩, rfl, rfl⟩

/-- The first `THEN` parts the tokens. -/
theorem splitThen_eq_some_iff {tokens right later : List Token} :
    splitThen tokens = some (right, later) ↔
      ∃ word, tokens = right ++ word :: later ∧ word.isThen = true ∧ ∀ token ∈ right, token.isThen = false := by
  induction tokens generalizing right with
  | nil => simp [splitThen]
  | cons first rest ih =>
    unfold splitThen
    cases here : first.isThen with
    | true =>
      constructor
      · intro parted
        cases parted
        exact ⟨first, rfl, here, by simp⟩
      · rintro ⟨word, split, _, plain⟩
        cases right with
        | nil =>
          cases split
          rfl
        | cons token right =>
          cases split
          exact absurd here (by simp [plain first List.mem_cons_self])
    | false =>
      cases right with
      | nil => simp [here]
      | cons token right =>
        simp only [Bool.false_eq_true, ↓reduceIte, Option.map_eq_some_iff, Prod.exists, Prod.mk.injEq, List.cons.injEq,
          List.cons_append, List.forall_mem_cons]
        constructor
        · rintro ⟨right', later', split, ⟨rfl, rfl⟩, rfl⟩
          obtain ⟨word, rfl, parts, others⟩ := ih.1 split
          exact ⟨word, ⟨rfl, rfl⟩, parts, here, others⟩
        · rintro ⟨word, ⟨rfl, rfl⟩, parts, _, others⟩
          exact ⟨right, later, ih.2 ⟨word, rfl, parts, others⟩, ⟨rfl, rfl⟩, rfl⟩

/-- A branch is an operand, the first relation, an operand up to the first `THEN`
    after it, and one token more. -/
theorem ofTokens?_eq_some_iff {tokens : List Token} {branch : Branch} :
    ofTokens? tokens = some branch ↔
      ∃ sign word, tokens = branch.left ++ sign :: (branch.right ++ [word, branch.target]) ∧
        sign.relation? = some branch.relation ∧ word.isThen = true ∧
        (∀ token ∈ branch.left, token.isRelation = false) ∧ ∀ token ∈ branch.right, token.isThen = false := by
  obtain ⟨left, relation, right, target⟩ := branch
  constructor
  · intro parted
    unfold ofTokens? at parted
    obtain ⟨⟨before, found, later⟩, first, rest⟩ := Option.bind_eq_some_iff.1 parted
    obtain ⟨⟨middle, last⟩, second, whole⟩ := Option.bind_eq_some_iff.1 rest
    obtain ⟨sign, rfl, relates, plain⟩ := splitRelation_eq_some_iff.1 first
    obtain ⟨word, rfl, parts, others⟩ := splitThen_eq_some_iff.1 second
    rcases last with _ | ⟨only, _ | ⟨more, many⟩⟩
    · cases whole
    · cases whole
      exact ⟨sign, word, rfl, relates, parts, plain, others⟩
    · cases whole
  · rintro ⟨sign, word, rfl, relates, parts, plain, others⟩
    have first : splitRelation (left ++ sign :: (right ++ [word, target])) =
        some (left, relation, right ++ [word, target]) :=
      splitRelation_eq_some_iff.2 ⟨sign, rfl, relates, plain⟩
    have second : splitThen (right ++ [word, target]) = some (right, [target]) :=
      splitThen_eq_some_iff.2 ⟨word, rfl, parts, others⟩
    simp only [ofTokens?, first, second, Option.bind_eq_bind, Option.bind_some]
    rfl

end Branch

end LineBasic
