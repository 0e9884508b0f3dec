import Mathlib
import LineBasic.Proofs.Statement.Form

/-!
Texts of the same tokens. The operands of a text are functions of its tokens after the
first (`Operands.after_target_eq` and its like), also where they cannot be read. So two
texts of the same tokens start with the same keyword and have the same operands, and both
pass the check or both fail it (`Form.check_congr`), although what is printed is checked
character by character.
-/
namespace LineBasic

theorem tokens_congr {text other : String} (same : tokenize text = tokenize other) :
    Lexer.tokens text.toList = Lexer.tokens other.toList := by
  rwa [tokenize_eq, tokenize_eq, Except.ok.injEq] at same

namespace Operands

variable {text other : String}

/-- The first operand is read as a number, and only then it is seen whether there are more. -/
theorem after_target_eq (text : String) :
    after target text =
      match operandTokens text with
      | [] => .error (.fault .invalidNumber)
      | [token] => Decimal.readLiteral token.text
      | token :: _ => Decimal.readLiteral token.text >>= fun _ => .error (.fault .malformed) := by
  rcases listed : operandTokens text with _ | ⟨token, _ | ⟨more, later⟩⟩
  · exact after_target_of_nil listed
  · exact after_target listed
  · obtain ⟨scanner, before, same⟩ := after_eq text
    rw [listed] at before
    obtain ⟨reached, taken, standing, _⟩ := Scanner.next_isBefore_cons before
    obtain ⟨last, asked, _⟩ := Scanner.hasMore_isBefore standing
    rw [same]
    unfold Step.isolated target
    rw [Step.bind_apply, taken]
    dsimp only
    cases Decimal.readLiteral token.text with
    | error stop => rfl
    | ok number =>
      simp only [Step.bind_apply, Step.ofExcept_ok, asked]
      rfl

theorem after_onlyVariable_eq (text : String) :
    after onlyVariable text =
      match operandTokens text with
      | [token] => if token.isVariable then .ok token.text else .error (.fault .malformed)
      | _ => .error (.fault .malformed) := by
  obtain ⟨scanner, before, same⟩ := after_eq text
  rw [same]
  unfold Step.isolated onlyVariable
  rw [Step.bind_apply]
  rcases variableName_eq before with ⟨target, later, reached, listed, named, read, standing⟩ | ⟨unnamed, reached, read⟩
  · obtain ⟨last, asked, _⟩ := Scanner.hasMore_isBefore standing
    simp only [read, Step.bind_apply, asked, listed]
    cases later with
    | nil => simp only [named, List.isEmpty_nil, Bool.not_true, Bool.false_eq_true, ↓reduceIte, Step.pure_apply]
    | cons more later => rfl
  · simp only [read]
    rcases listed : operandTokens text with _ | ⟨token, _ | ⟨more, later⟩⟩
    · rfl
    · simp only [unnamed token [] listed, Bool.false_eq_true, ↓reduceIte]
    · rfl

theorem after_assignment_eq (text : String) :
    after assignment text =
      match operandTokens text with
      | target :: sign :: source =>
        if target.isVariable && sign.isSign "=" then
          (Expr.ofTokens source).map fun expression => (target.text, expression)
        else .error (.fault .malformed)
      | _ => .error (.fault .malformed) := by
  obtain ⟨scanner, before, same⟩ := after_eq text
  rw [same]
  unfold Step.isolated assignment
  rw [Step.bind_apply]
  rcases variableName_eq before with ⟨target, later, reached, listed, named, read, standing⟩ | ⟨unnamed, reached, read⟩
  · rw [listed, read]
    cases later with
    | nil =>
      obtain ⟨token, last, taken, ends, _⟩ := Scanner.next_isBefore_nil standing
      have other : token.isSign "=" = false := by
        rw [Token.isEnding, beq_iff_eq] at ends
        simp [Token.isSign, ends]
      simp only [Step.bind_apply, taken, other, Bool.false_eq_true, ↓reduceIte, Step.fail_apply]
    | cons sign source =>
      obtain ⟨last, taken, standing, _⟩ := Scanner.next_isBefore_cons standing
      simp only [Step.bind_apply, taken, named, Bool.true_and]
      cases joins : sign.isSign "=" with
      | false => rfl
      | true =>
        have reads : Expr.readAll.isolated last = Expr.ofTokens source :=
          Expr.isolated_readAll_eq standing (Scanner.isBefore_ofTokens standing.proper)
        rw [← reads]
        unfold Step.isolated
        simp only [↓reduceIte, Step.bind_apply, Stack.read_unbounded]
        cases Expr.readAll last with
        | ok expression => rfl
        | error stop => rfl
  · rw [read]
    rcases listed : operandTokens text with _ | ⟨target, _ | ⟨sign, source⟩⟩
    · rfl
    · rfl
    · simp only [unnamed target _ listed, Bool.false_and, Bool.false_eq_true, ↓reduceIte]

/-! ### Congruence -/

theorem operandTokens_congr (same : tokenize text = tokenize other) : operandTokens text = operandTokens other :=
  congrArg List.tail (tokens_congr same)

theorem after_target_congr (same : operandTokens text = operandTokens other) :
    after target text = after target other := by
  rw [after_target_eq, after_target_eq, same]

theorem after_onlyVariable_congr (same : operandTokens text = operandTokens other) :
    after onlyVariable text = after onlyVariable other := by
  rw [after_onlyVariable_eq, after_onlyVariable_eq, same]

theorem after_assignment_congr (same : operandTokens text = operandTokens other) :
    after assignment text = after assignment other := by
  rw [after_assignment_eq, after_assignment_eq, same]

theorem after_readAll_congr (same : operandTokens text = operandTokens other) :
    after Expr.readAll text = after Expr.readAll other := by
  rw [after_readAll, after_readAll, same]

theorem after_remaining_congr (same : operandTokens text = operandTokens other) :
    after Scanner.remaining text = after Scanner.remaining other := by
  rw [after_remaining, after_remaining, same]

end Operands

theorem Statement.keyword?_congr {text other : String} (same : tokenize text = tokenize other) :
    keyword? text = keyword? other := by
  rw [keyword?_eq, keyword?_eq, tokens_congr same]

namespace Form

/-- What is admitted after a keyword depends on the tokens only. -/
theorem admits_congr {text other : String} {keyword : Keyword} {operands : List Token}
    (same : tokenize text = tokenize other) (starts : Statement.keyword? text = .ok (some keyword)) :
    admits text keyword operands = admits other keyword operands := by
  cases keyword with
  | print =>
    have starts' : Statement.keyword? other = .ok (some .print) := Statement.keyword?_congr same ▸ starts
    change admitsPrinting text = admitsPrinting other
    rw [Bool.eq_iff_iff, admitsPrinting_iff starts, admitsPrinting_iff starts', Operands.operandTokens_congr same]
  | _ => rfl

theorem check_congr {text other : String} (same : tokenize text = tokenize other) : check text = check other := by
  have alike : admitsStatement text (Lexer.tokens text.toList) = admitsStatement other (Lexer.tokens text.toList) := by
    cases listed : Lexer.tokens text.toList with
    | nil => rfl
    | cons first operands =>
      cases starting : first.keyword? with
      | none => simp [admitsStatement, starting]
      | some keyword =>
        have starts : Statement.keyword? text = .ok (some keyword) := by
          rw [Statement.keyword?_eq, listed, List.head?_cons, Option.bind_some, starting]
        simp only [admitsStatement, starting, Option.any_some, admits_congr same starts]
  rw [check_eq, check_eq, alike, tokens_congr same]

end Form

end LineBasic
