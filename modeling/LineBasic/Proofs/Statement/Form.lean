import Mathlib
import LineBasic.Proofs.Statement.Operands
import LineBasic.Proofs.Statement.Requirement
import LineBasic.Proofs.Token.Concatenation

/-!
What the check of a stored line says about its tokens. A checked line starts with a
keyword, and its operands have the form that the keyword asks for
(`Form.check_iff`). What may be printed is looked at as text, but is a condition on
the tokens (`Form.admitsPrinting_iff`); a condition is admitted where it
splits into a branch of plain operands (`Form.admitsCondition_iff`).
-/
namespace LineBasic

theorem Token.keyword?_eq_some_iff {token : Token} {keyword : Keyword} :
    token.keyword? = some keyword ↔ token.kind = .word ∧ token.text = keyword.word := by
  have known : Keyword.ofWord? token.text = some keyword ↔ token.text = keyword.word := by
    constructor
    · intro found
      exact (beq_iff_eq.1 (List.find?_some (p := fun other : Keyword => other.word == token.text) found)).symm
    · intro same
      rw [same]
      cases keyword <;> decide
  unfold Token.keyword?
  split_ifs with kind
  · simp [kind, known]
  · simp [kind]

/-- The keyword that starts a text is that of its first token. -/
theorem Statement.keyword?_eq (text : String) :
    Statement.keyword? text = .ok ((Lexer.tokens text.toList).head?.bind Token.keyword?) := by
  have before := Scanner.isBefore_ofText text
  unfold Statement.keyword?
  cases listed : Lexer.tokens text.toList with
  | nil =>
    rw [listed] at before
    obtain ⟨token, reached, taken, ends, _⟩ := Scanner.next_isBefore_nil before
    have other : token.keyword? = none := by
      rw [Token.isEnding, beq_iff_eq] at ends
      simp [Token.keyword?, ends]
    simp only [Step.isolated, taken, bind, Except.bind, other]
    rfl
  | cons token later =>
    rw [listed] at before
    obtain ⟨reached, taken, _⟩ := Scanner.next_isBefore_cons before
    simp only [Step.isolated, taken, bind, Except.bind]
    rfl

theorem Statement.keyword?_trim (text : String) : Statement.keyword? (Text.trim text) = Statement.keyword? text := by
  rw [keyword?_eq, keyword?_eq, Lexer.tokens_trim]

theorem Statement.keyword?_of_tokens {text : String} {keyword : Keyword} {operands : List Token}
    (listed : Lexer.tokens text.toList = ⟨.word, keyword.word⟩ :: operands) :
    Statement.keyword? text = .ok (some keyword) := by
  rw [keyword?_eq, listed, List.head?_cons, Option.bind_some, Token.keyword?_eq_some_iff.2 ⟨rfl, rfl⟩]

/-- A text that a keyword starts has the keyword for its first token. -/
theorem Statement.tokens_of_keyword? {text : String} {keyword : Keyword}
    (starts : Statement.keyword? text = .ok (some keyword)) :
    Lexer.tokens text.toList = ⟨.word, keyword.word⟩ :: Operands.operandTokens text := by
  rw [keyword?_eq, Except.ok.injEq, Option.bind_eq_some_iff] at starts
  obtain ⟨⟨kind, word⟩, first, keyed⟩ := starts
  obtain ⟨rfl, rfl⟩ := Token.keyword?_eq_some_iff.1 keyed
  obtain ⟨later, listed⟩ := List.head?_eq_some_iff.1 first
  rw [Operands.operandTokens, listed, List.tail_cons]

theorem Statement.tokenize_of_keyword? {text : String} {keyword : Keyword}
    (starts : Statement.keyword? text = .ok (some keyword)) :
    tokenize text = .ok (⟨.word, keyword.word⟩ :: Operands.operandTokens text) := by
  rw [tokenize_eq, Statement.tokens_of_keyword? starts]

namespace Form

/-! ### The forms as conditions on the tokens -/

/-- A token after which no more come. -/
def isOnly (accepts : Token → Bool) : List Token → Bool := leads accepts List.isEmpty

/-- A variable, `=`, and tokens without another `=`. -/
def admitsAssignment : List Token → Bool :=
  leads Token.isVariable (leads (fun token => token.isSign "=") fun source => source.all fun token => !token.isSign "=")

/-- The right operand of a condition, `THEN` and a line number. The operand may
    not hold a relation. -/
def admitsConsequence : List Token → Bool :=
  passes Token.isThen (fun token => !token.isRelation && token.isPlain) (isOnly Token.isLineNumber)

/-- The left operand of a condition, a relation, and what follows it. -/
def admitsCondition : List Token → Bool := passes Token.isRelation Token.isPlain admitsConsequence

/-- Whether the tokens after a keyword have the form that the keyword asks for. -/
def admits (text : String) : Keyword → List Token → Bool
  | .remark, _ => true
  | .assign, operands => admitsAssignment operands
  | .print, _ => admitsPrinting text
  | .input, operands => isOnly Token.isVariable operands
  | .stop, operands => operands.isEmpty
  | .jump, operands => isOnly Token.isLineNumber operands
  | .branch, operands => admitsCondition operands

/-- Whether some tokens are a keyword and operands of its form. -/
def admitsStatement (text : String) : List Token → Bool
  | [] => false
  | first :: operands => first.keyword?.any fun keyword => admits text keyword operands

/-- What is required after a keyword is the form that it asks for. -/
theorem requires_expectOperands (text : String) (keyword : Keyword) :
    Requires (expectOperands text keyword) (admits text keyword) := by
  -- An ending is nothing that a form asks for.
  have noVariable : ∀ token : Token, token.isEnding = true → token.isVariable = false := by
    intro token ends
    simp [Token.isVariable, Token.isEnding_iff.1 ends]
  have noNumber : ∀ token : Token, token.isEnding = true → token.isLineNumber = false := by
    intro token ends
    simp [Token.isLineNumber, Token.isEnding_iff.1 ends]
  have noSign : ∀ token : Token, token.isEnding = true → token.isSign "=" = false := by
    intro token ends
    simpa using Token.isSign_of_isEnding ends "="
  cases keyword with
  | remark => exact requires_return true
  | assign => exact ((requires_without _).expect noSign).expect noVariable
  | print => exact requires_return (admitsPrinting text)
  | input => exact requires_expectEnd.expect noVariable
  | stop => exact requires_expectEnd
  | jump => exact requires_expectEnd.expect noNumber
  | branch => exact (requires_expectEnd.expect noNumber).pass.pass

theorem requires_expectStatement (text : String) : Requires (expectStatement text) (admitsStatement text) := by
  intro scanner tokens before
  cases tokens with
  | nil =>
    obtain ⟨token, after, taken, ends, _⟩ := Scanner.next_isBefore_nil before
    have other : token.keyword? = none := by simp [Token.keyword?, Token.isEnding_iff.1 ends]
    refine ⟨after, ?_⟩
    rw [expectStatement, Step.bind_apply, taken]
    simp only [other]
    rfl
  | cons first operands =>
    obtain ⟨middle, taken, standing, _⟩ := Scanner.next_isBefore_cons before
    cases keyed : first.keyword? with
    | none =>
      refine ⟨middle, ?_⟩
      simp only [expectStatement, Step.bind_apply, taken, keyed, admitsStatement, Option.any_none, Bool.false_eq_true,
        ↓reduceIte, Step.fail_apply]
    | some keyword =>
      obtain ⟨after, met⟩ := requires_expectOperands text keyword standing
      refine ⟨after, ?_⟩
      simp only [expectStatement, Step.bind_apply, taken, keyed, met, admitsStatement, Option.any_some]

/-- The check looks at nothing of a text but its tokens and, after `PRINT`, its characters. -/
theorem check_eq (text : String) :
    check text =
      if admitsStatement text (Lexer.tokens text.toList) then .ok () else .error (.fault .malformed) := by
  obtain ⟨after, met⟩ := requires_expectStatement text (Scanner.isBefore_ofText text)
  rw [check, Step.isolated, met]
  cases admitsStatement text (Lexer.tokens text.toList) <;> rfl

/-- A text is refused for its form or not at all. -/
theorem check_cases (text : String) : check text = .ok () ∨ check text = .error (.fault .malformed) := by
  rw [check_eq]
  exact ite_eq_or_eq _ _ _

/-- A checked line is a keyword and operands of its form. -/
theorem check_iff (text : String) :
    check text = .ok () ↔
      ∃ first operands keyword, Lexer.tokens text.toList = first :: operands ∧ first.keyword? = some keyword ∧
        admits text keyword operands = true := by
  rw [check_eq]
  cases Lexer.tokens text.toList with
  | nil => simp [admitsStatement]
  | cons first operands =>
    cases starts : first.keyword? with
    | none => simp [admitsStatement, starts]
    | some keyword => cases fits : admits text keyword operands <;> simp [admitsStatement, starts, fits]

theorem check_iff_admits {text : String} {keyword : Keyword} (starts : Statement.keyword? text = .ok (some keyword)) :
    check text = .ok () ↔ admits text keyword (Operands.operandTokens text) = true := by
  have tokens := Statement.tokens_of_keyword? starts
  have keyed : Token.keyword? ⟨.word, keyword.word⟩ = some keyword := Token.keyword?_eq_some_iff.2 ⟨rfl, rfl⟩
  rw [check_iff]
  constructor
  · rintro ⟨first, operands, keyword', listed, first_starts, fits⟩
    obtain ⟨rfl, rfl⟩ := List.cons.inj (tokens.symm.trans listed)
    rw [keyed, Option.some.injEq] at first_starts
    rwa [first_starts]
  · exact fun fits => ⟨_, _, keyword, tokens, keyed, fits⟩

/-- An admitted assignment has no `=` in the expression. -/
theorem admitsAssignment_iff {tokens : List Token} :
    admitsAssignment tokens = true ↔
      ∃ target sign source, tokens = target :: sign :: source ∧ target.isVariable = true ∧ sign.isSign "=" = true ∧
        ∀ token ∈ source, token.isSign "=" = false := by
  rcases tokens with _ | ⟨target, _ | ⟨sign, source⟩⟩
  · simp [admitsAssignment, leads]
  · simp [admitsAssignment, leads]
  · simp [admitsAssignment, leads, and_assoc]

/-- What follows `PRINT` is admitted if no token after it has a character that
    expressions do not have. -/
theorem admitsPrinting_iff {text : String} (starts : Statement.keyword? text = .ok (some .print)) :
    admitsPrinting text = true ↔ ∀ token ∈ Operands.operandTokens text, token.isPlain = true := by
  rw [Statement.keyword?_eq, Except.ok.injEq] at starts
  cases more : (Lexer.lex text.toList).1.isEnding with
  | true =>
    rw [Lexer.tokens_of_isEnding more] at starts
    cases starts
  | false =>
    rw [Lexer.tokens_of_more more] at starts
    obtain ⟨_, word⟩ := Token.keyword?_eq_some_iff.1 starts
    have whole := Lexer.toList_lex_append text.toList
    rw [word] at whole
    have rest : (Text.trimStart text.toList).drop Keyword.print.word.length = (Lexer.lex text.toList).2 := by
      rw [Text.trimStart, ← whole]
      exact List.drop_left
    rw [Operands.operandTokens, Lexer.tokens_of_more more, List.tail_cons, admitsPrinting, rest, List.all_eq_true]
    constructor
    · intro admitted token member
      refine List.all_eq_true.2 fun c shown => ?_
      have shows := (Lexer.lexed_of_mem_tokens member).isBlank_eq_false c shown
      simpa [shows] using admitted c (Lexer.mem_of_mem_tokens member shown)
    · intro plain c member
      by_cases blank : Text.isBlank c = true
      · rw [blank, Bool.true_or]
      · obtain ⟨token, listed, shown⟩ := Lexer.exists_mem_tokens member (by simpa using blank)
        rw [List.all_eq_true.1 (plain token listed) c shown, Bool.or_true]

theorem isSign_eq_false_of_isPlain {token : Token} (plain : token.isPlain = true) : token.isSign "(" = false := by
  rw [← Bool.not_eq_true, Token.isSign_iff]
  rintro ⟨_, text⟩
  rw [Token.isPlain, text] at plain
  revert plain
  decide

theorem isOnly_iff {accepts : Token → Bool} {tokens : List Token} :
    isOnly accepts tokens = true ↔ ∃ token, tokens = [token] ∧ accepts token = true := by
  rcases tokens with _ | ⟨token, _ | ⟨more, many⟩⟩ <;> simp [isOnly, leads]

theorem admitsConsequence_iff {tokens : List Token} :
    admitsConsequence tokens = true ↔
      ∃ right word target, tokens = right ++ [word, target] ∧ word.isThen = true ∧ target.isLineNumber = true ∧
        ∀ token ∈ right, token.isThen = false ∧ token.isRelation = false ∧ token.isPlain = true := by
  simp only [admitsConsequence, passes_iff, isOnly_iff, Bool.and_eq_true, Bool.not_eq_true']
  constructor
  · rintro ⟨right, word, _, rfl, isThen, ⟨target, rfl, lineNumber⟩, plain⟩
    exact ⟨right, word, target, rfl, isThen, lineNumber, plain⟩
  · rintro ⟨right, word, target, rfl, isThen, lineNumber, plain⟩
    exact ⟨right, word, _, rfl, isThen, ⟨target, rfl, lineNumber⟩, plain⟩

theorem admitsCondition_iff_split {tokens : List Token} :
    admitsCondition tokens = true ↔
      ∃ left sign later, tokens = left ++ sign :: later ∧ sign.isRelation = true ∧ admitsConsequence later = true ∧
        ∀ token ∈ left, token.isRelation = false ∧ token.isPlain = true := by
  rw [admitsCondition, passes_iff]

/-- An admitted condition is a branch whose operands are plain, with no relation in
    the right one, and whose target is a line number. -/
theorem admitsCondition_iff {tokens : List Token} :
    admitsCondition tokens = true ↔
      ∃ branch, Branch.ofTokens? tokens = some branch ∧ branch.target.isLineNumber = true ∧
        (∀ token ∈ branch.left, token.isPlain = true) ∧
        ∀ token ∈ branch.right, token.isRelation = false ∧ token.isPlain = true := by
  rw [admitsCondition_iff_split]
  constructor
  · rintro ⟨left, sign, later, rfl, relates, admitted, plainLeft⟩
    obtain ⟨right, word, target, rfl, isThen, lineNumber, plainRight⟩ := admitsConsequence_iff.1 admitted
    obtain ⟨relation, found⟩ := Option.isSome_iff_exists.1 relates
    refine ⟨⟨left, relation, right, target⟩, Branch.ofTokens?_eq_some_iff.2 ⟨sign, word, rfl, found, isThen, ?_, ?_⟩,
      lineNumber, fun token member => (plainLeft token member).2, fun token member => (plainRight token member).2⟩
    · exact fun token member => (plainLeft token member).1
    · exact fun token member => (plainRight token member).1
  · rintro ⟨branch, parted, lineNumber, plainLeft, plainRight⟩
    obtain ⟨sign, word, rfl, found, isThen, others, unparted⟩ := Branch.ofTokens?_eq_some_iff.1 parted
    refine ⟨branch.left, sign, branch.right ++ [word, branch.target], rfl, by simp [Token.isRelation, found], ?_,
      fun token member => ⟨others token member, plainLeft token member⟩⟩
    refine admitsConsequence_iff.2 ⟨branch.right, word, branch.target, rfl, isThen, lineNumber, ?_⟩
    exact fun token member => ⟨unparted token member, plainRight token member⟩

/-- A token that is no relation is not `=`. -/
theorem isSign_eq_false_of_isRelation {token : Token} (other : token.isRelation = false) :
    token.isSign "=" = false := by
  rw [← Bool.not_eq_true, Token.isSign_iff]
  rintro ⟨kind, text⟩
  rw [Token.isRelation, Token.relation?, kind, text] at other
  revert other
  decide

/-! ### Blanks at the ends -/

theorem admitsPrinting_trim (text : String) : admitsPrinting (Text.trim text) = admitsPrinting text := by
  obtain ⟨after, started, blank⟩ := Text.exists_trimStart_eq text.toList
  have allowed : (after.drop (Keyword.print.word.length - (Text.trimmed text.toList).length)).all
      (fun c => Text.isBlank c || isExpressionChar c) = true := by
    refine List.all_eq_true.2 fun c member => ?_
    rw [blank c (List.mem_of_mem_drop member), Bool.true_or]
  rw [admitsPrinting, admitsPrinting, Text.trim, String.toList_ofList, Text.trimStart_trimmed, started,
    List.drop_append, List.all_append, allowed, Bool.and_true]

theorem check_trim (text : String) : check (Text.trim text) = check text := by
  have same := Lexer.tokens_trim text
  have admitted : ∀ keyword operands, admits (Text.trim text) keyword operands = admits text keyword operands := by
    intro keyword operands
    cases keyword with
    | print => exact admitsPrinting_trim text
    | _ => rfl
  have stated : ∀ tokens, admitsStatement (Text.trim text) tokens = admitsStatement text tokens := by
    intro tokens
    cases tokens with
    | nil => rfl
    | cons first operands => simp only [admitsStatement, admitted]
  rw [check_eq, check_eq, same, stated]

end Form

end LineBasic
