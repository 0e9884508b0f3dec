import Mathlib
import LineBasic.Proofs.Session.Moves
import LineBasic.Proofs.Session.Perform
import LineBasic.Proofs.Statement.Sentence

/-!
What the check of a line refuses although it can be executed. Outside brackets an
expression consists of words, numerals and operators (`Derives.cases_of_mem`), all of
which the check lets pass. So of a statement that has succeeded it refuses only brackets
where it looks for them, a second `=`, and what the execution did not look at
(`refused_iff_exceeds`).
-/
namespace LineBasic

namespace Derives

variable {level : Nat} {tokens : List Token} {expression : Expr}

/-- Without brackets, an expression is written with words, numerals and operators. -/
theorem cases_of_mem (derived : Derives level tokens expression) (free : ∀ token ∈ tokens, token.isSign "(" = false) :
    ∀ token ∈ tokens, token.kind = .word ∨ token.kind = .number ∨
      ∃ operator : Operator, token.isSign operator.sign = true := by
  induction derived with
  | identifier kind => simpa using .inl kind
  | numeral kind => simpa using .inr (.inl kind)
  | negative sign kind =>
    have minus : ∃ operator : Operator, Token.isSign _ operator.sign = true := ⟨.arithmetic .subtract, sign⟩
    simpa using ⟨.inr (.inr minus), .inr (.inl kind)⟩
  | @bracketed opening _ _ _ opens =>
    exact absurd opens (by simp [free opening (List.mem_append_left _ List.mem_cons_self)])
  | ofTerm _ ih | ofProduct _ ih | ofSum _ ih => exact ih free
  | product _ _ joins _ first second | sum _ _ joins _ first second | assignment _ joins _ first second =>
    intro token member
    rcases List.mem_append.1 member with member | member
    · exact first (fun other before => free other (List.mem_append_left _ before)) token member
    · rcases List.mem_cons.1 member with rfl | member
      · exact .inr (.inr ⟨_, joins⟩)
      · refine second (fun other after => free other ?_) token member
        exact List.mem_append_right _ (List.mem_cons_of_mem _ after)

/-- Without brackets, the check lets all characters of an expression pass. -/
theorem isPlain_of_mem (derived : Derives level tokens expression) (lexed : ∀ token ∈ tokens, token.Lexed)
    (free : ∀ token ∈ tokens, token.isSign "(" = false) : ∀ token ∈ tokens, token.isPlain = true := by
  intro token member
  have ofKind : token.kind ≠ .operator → token.isPlain = true := by
    intro kind
    refine List.all_eq_true.2 fun c shown => ?_
    rw [isExpressionChar, (lexed token member).isAlphanum kind c shown, Bool.true_or]
  rcases derived.cases_of_mem free token member with word | number | ⟨operator, joins⟩
  · exact ofKind (by simp [word])
  · exact ofKind (by simp [number])
  · rw [Token.isPlain, (Token.isSign_iff.1 joins).2]
    rcases operator with _ | (_ | _ | _ | _) <;> decide

/-- The only relation in an expression is `=`. -/
theorem isRelation_eq_false_of_mem (derived : Derives level tokens expression)
    (free : ∀ token ∈ tokens, token.isSign "(" = false) (once : ∀ token ∈ tokens, token.isSign "=" = false) :
    ∀ token ∈ tokens, token.isRelation = false := by
  intro token member
  rw [Token.isRelation_eq_false_iff]
  rintro ⟨sign, listed, rfl⟩
  have other := once _ member
  rcases derived.cases_of_mem free _ member with word | number | ⟨operator, joins⟩
  · cases word
  · cases number
  · obtain rfl : sign = operator.sign := (Token.isSign_iff.1 joins).2
    rcases operator with _ | (_ | _ | _ | _)
    · cases other
    all_goals
      revert listed
      decide

end Derives

/-- The token is a numeral of digits alone. -/
def Token.AllDigits (token : Token) : Prop :=
  ∃ number, token = ⟨.number, number⟩ ∧ ∀ c ∈ number.toList, c.isDigit = true

/-- What a statement that can be executed has beyond what may be stored, by its keyword
    and the tokens after it. The brackets of a `LET` may be stored. -/
inductive Exceeds : Keyword → List Token → Prop
  | assign {operands : List Token} (again : 2 ≤ operands.count ⟨.operator, "="⟩) : Exceeds .assign operands
  | print {operands : List Token} (bracket : ⟨.operator, "("⟩ ∈ operands) : Exceeds .print operands
  | stop {operands : List Token} (more : operands ≠ []) : Exceeds .stop operands
  | branch {left right : List Token} {sign target : Token} (relates : sign.Relational)
      (first : ∀ token ∈ left, ¬ token.Relational) (unparted : ∀ token ∈ right, token ≠ ⟨.word, "THEN"⟩)
      (beyond : ⟨.operator, "("⟩ ∈ left ∨ ⟨.operator, "("⟩ ∈ right ∨ ⟨.operator, "="⟩ ∈ right ∨ ¬ target.AllDigits) :
      Exceeds .branch (left ++ sign :: (right ++ [⟨.word, "THEN"⟩, target]))

namespace Token

variable {tokens : List Token} {sign : String}

theorem sign_not_mem_iff : ⟨.operator, sign⟩ ∉ tokens ↔ ∀ token ∈ tokens, token.isSign sign = false := by
  constructor
  · intro absent token member
    rw [← Bool.not_eq_true, isSign_iff_eq]
    rintro rfl
    exact absent member
  · intro free member
    have other := free _ member
    rw [← Bool.not_eq_true, isSign_iff_eq] at other
    exact other rfl

/-- What is read as a number is all digits: the minus sign of a numeral is a token of its own. -/
theorem Lexed.allDigits {token : Token} (lexed : token.Lexed) {number : Int}
    (read : Decimal.readLiteral token.text = .ok number) : token.AllDigits := by
  have numeral := Decimal.isNumeral_of_readLiteral read
  cases lexed with
  | @word first rest letter run =>
    rw [String.toList_ofList] at numeral
    rcases numeral with numeral | ⟨digits, shown, _⟩
    · obtain ⟨digit, _⟩ : first.isDigit = true ∧ _ := by simpa [Decimal.isNumeral] using numeral
      simp [Text.isAlpha_eq_false_of_isDigit digit] at letter
    · cases shown
      cases letter
  | @numeral first rest digit run =>
    rw [String.toList_ofList] at numeral
    rcases numeral with numeral | ⟨digits, shown, _⟩
    · exact ⟨_, rfl, by simpa [Decimal.isNumeral] using numeral⟩
    · cases shown
      cases digit
  | @sign c other shows =>
    rw [String.toList_ofList] at numeral
    rcases numeral with numeral | ⟨digits, shown, isNumeral⟩
    · have digit : c.isDigit = true := by simpa [Decimal.isNumeral] using numeral
      simp [Char.isAlphanum, digit] at other
    · cases shown
      cases isNumeral

end Token

namespace Branch

/-- Operands that have values are expressions. -/
theorem derives_of_values {branch : Branch} (proper : ∀ token ∈ branch.left ++ branch.right, token.isEnding = false)
    {vars reached : Variables} {answer : Int × Int} (valued : branch.values vars = .ok answer reached) :
    (∃ expression, Derives 0 branch.left expression) ∧ ∃ expression, Derives 0 branch.right expression := by
  obtain ⟨left, readLeft, rest⟩ := Step.ofExcept_bind_ok_cases valued
  obtain ⟨first, middle, _, rest⟩ := Step.bind_ok_cases rest
  obtain ⟨right, readRight, _⟩ := Step.ofExcept_bind_ok_cases rest
  rw [Expr.ofTokens_iff_derives fun token member => proper token (List.mem_append_left _ member)] at readLeft
  rw [Expr.ofTokens_iff_derives fun token member => proper token (List.mem_append_right _ member)] at readRight
  exact ⟨⟨left, readLeft⟩, ⟨right, readRight⟩⟩

/-- A branch has its parts in one way only, so that what it has beyond a stored one is in
    these parts. -/
theorem exceeds_iff {operands : List Token} {branch : Branch} (parted : ofTokens? operands = some branch) :
    Exceeds .branch operands ↔
      ⟨.operator, "("⟩ ∈ branch.left ∨ ⟨.operator, "("⟩ ∈ branch.right ∨ ⟨.operator, "="⟩ ∈ branch.right ∨
        ¬ branch.target.AllDigits := by
  constructor
  · intro exceeds
    cases exceeds with
    | @branch left right sign target relates first unparted beyond =>
      obtain ⟨relation, _, same⟩ := ofTokens?_of_parts target relates first unparted
      rw [parted, Option.some.injEq] at same
      rwa [same]
  · intro beyond
    obtain ⟨sign, word, rfl, found, isThen, first, unparted⟩ := ofTokens?_eq_some_iff.1 parted
    obtain rfl := Token.isThen_iff.1 isThen
    refine .branch (Token.isRelation_iff.1 ?_) (fun token member => ?_) (fun token member => ?_) beyond
    · rw [Token.isRelation, found, Option.isSome_some]
    · exact Token.isRelation_eq_false_iff.1 (first token member)
    · rintro rfl
      cases unparted _ member

/-- The parts of a branch in a text are made of tokens of the text. -/
theorem lexed_of_parted {text : String} {branch : Branch} (parted : ofTokens? (Operands.operandTokens text) = some branch) :
    (∀ token ∈ branch.left ++ branch.right, token.Lexed) ∧ branch.target.Lexed := by
  obtain ⟨sign, word, parts, _⟩ := ofTokens?_eq_some_iff.1 parted
  have within : ∀ token ∈ branch.target :: (branch.left ++ branch.right), token.Lexed := by
    intro token member
    refine Operands.lexed_of_mem_operandTokens (?_ : token ∈ Operands.operandTokens text)
    rw [parts]
    simp only [List.mem_append, List.mem_cons] at member ⊢
    tauto
  exact List.forall_mem_cons.1 within |>.symm

end Branch

namespace Session

variable {text : String} {session after : Session}

/-! ### What has succeeded -/

/-- A statement that has been executed was performed with the variables of the session. -/
theorem perform_of_execute_ok {keyword : Keyword} (done : execute ⟨.known keyword, text⟩ session = .ok () after) :
    ∃ start : Session, start.vars = session.vars ∧ perform keyword text start = .ok () after := by
  cases budget : session.budget with
  | zero =>
    rw [execute_of_exhausted _ budget] at done
    cases done
  | succ left =>
    obtain ⟨noted, known⟩ := execute_known keyword text budget
    rw [known] at done
    exact ⟨{ session with budget := left, noted := noted }, rfl, done⟩

/-- A branch that succeeds is split, and its operands have values. Its target is read as a
    number where the relation holds of them. -/
theorem perform_branch_ok_cases (done : perform .branch text session = .ok () after) :
    ∃ branch left right vars, Branch.ofTokens? (Operands.operandTokens text) = some branch ∧
      branch.values session.vars = .ok (left, right) vars ∧
      (branch.relation.holds left right = true → ∃ number, Decimal.readLiteral branch.target.text = .ok number) := by
  rw [perform_branch] at done
  cases parted : Branch.ofTokens? (Operands.operandTokens text) with
  | none =>
    rw [parted] at done
    cases done
  | some branch =>
    rw [parted] at done
    dsimp only at done
    cases valued : branch.values session.vars with
    | error stop vars =>
      rw [valued] at done
      cases done
    | ok answer vars =>
      obtain ⟨left, right⟩ := answer
      refine ⟨branch, left, right, vars, rfl, valued, fun relates => ?_⟩
      rw [valued] at done
      simp only [if_pos relates] at done
      cases read : Decimal.readLiteral branch.target.text with
      | error stop =>
        rw [read] at done
        cases done
      | ok number => exact ⟨number, rfl⟩

/-! ### What the check admits of it -/

theorem admits_assign_iff (done : perform .assign text session = .ok () after) :
    Form.admits text .assign (Operands.operandTokens text) = true ↔ ¬ Exceeds .assign (Operands.operandTokens text) := by
  obtain ⟨answer, read, _⟩ := Step.ofExcept_bind_ok_cases done
  obtain ⟨target, sign, source, listed, named, _, joins, _⟩ := (Operands.after_assignment_iff _ _).1 read
  obtain rfl := Token.isSign_iff_eq.1 joins
  have other : target ≠ ⟨.operator, "="⟩ := by
    rintro rfl
    cases named
  have counted : (Operands.operandTokens text).count ⟨.operator, "="⟩ = source.count ⟨.operator, "="⟩ + 1 := by
    rw [listed, List.count_cons_of_ne other, List.count_cons_self]
  have admitted : Form.admits text .assign (Operands.operandTokens text) = true ↔ ⟨.operator, "="⟩ ∉ source := by
    rw [Token.sign_not_mem_iff, listed]
    simp [Form.admits, Form.admitsAssignment, Form.leads, named, joins]
  rw [admitted, ← List.count_eq_zero]
  constructor
  · intro none exceeds
    cases exceeds with
    | assign again => omega
  · intro within
    by_contra some
    exact within (.assign (by omega))

theorem admits_print_iff (starts : Statement.keyword? text = .ok (some .print))
    (done : perform .print text session = .ok () after) :
    Form.admits text .print (Operands.operandTokens text) = true ↔ ¬ Exceeds .print (Operands.operandTokens text) := by
  obtain ⟨value, middle, valued, _⟩ := Step.bind_ok_cases done
  obtain ⟨expression, read, _⟩ := Step.ofExcept_bind_ok_cases valued
  have derived := (Operands.after_readAll_iff text expression).1 read
  rw [Form.admits, Form.admitsPrinting_iff starts]
  constructor
  · intro plain exceeds
    cases exceeds with
    | print bracket => cases Form.isSign_eq_false_of_isPlain (plain _ bracket)
  · intro within
    refine derived.isPlain_of_mem (fun token => Operands.lexed_of_mem_operandTokens) ?_
    exact Token.sign_not_mem_iff.1 fun bracket => within (.print bracket)

theorem admits_branch_iff (done : perform .branch text session = .ok () after) :
    Form.admits text .branch (Operands.operandTokens text) = true ↔ ¬ Exceeds .branch (Operands.operandTokens text) := by
  obtain ⟨branch, left, right, vars, parted, valued, _⟩ := perform_branch_ok_cases done
  have lexed := (Branch.lexed_of_parted parted).1
  obtain ⟨⟨_, derivedLeft⟩, ⟨_, derivedRight⟩⟩ :=
    Branch.derives_of_values (fun token member => (lexed token member).isEnding_eq_false) valued
  rw [Form.admits, Form.admitsCondition_iff, Branch.exceeds_iff parted]
  push Not
  constructor
  · rintro ⟨branch', parted', numeral, plainLeft, plainRight⟩
    obtain rfl : branch = branch' := by simpa [parted] using parted'
    refine ⟨fun bracket => ?_, fun bracket => ?_, fun again => ?_, Token.isLineNumber_iff.1 numeral⟩
    · cases Form.isSign_eq_false_of_isPlain (plainLeft _ bracket)
    · cases Form.isSign_eq_false_of_isPlain (plainRight _ bracket).2
    · cases Form.isSign_eq_false_of_isRelation (plainRight _ again).1
  · rintro ⟨freeLeft, freeRight, once, numeral⟩
    rw [Token.sign_not_mem_iff] at freeLeft freeRight once
    refine ⟨branch, parted, Token.isLineNumber_iff.2 numeral, ?_, fun token member => ⟨?_, ?_⟩⟩
    · exact derivedLeft.isPlain_of_mem (fun token member => lexed token (List.mem_append_left _ member)) freeLeft
    · exact derivedRight.isRelation_eq_false_of_mem freeRight once token member
    · exact derivedRight.isPlain_of_mem (fun token member => lexed token (List.mem_append_right _ member)) freeRight
        token member

/-- Of a statement that has succeeded, the check admits what does not exceed. -/
theorem admits_iff_not_exceeds {keyword : Keyword} (starts : Statement.keyword? text = .ok (some keyword))
    (done : perform keyword text session = .ok () after) :
    Form.admits text keyword (Operands.operandTokens text) = true ↔ ¬ Exceeds keyword (Operands.operandTokens text) := by
  cases keyword with
  | remark =>
    refine ⟨fun _ exceeds => ?_, fun _ => rfl⟩
    cases exceeds
  | assign => exact admits_assign_iff done
  | print => exact admits_print_iff starts done
  | input =>
    obtain ⟨name, read, _⟩ := Step.ofExcept_bind_ok_cases done
    obtain ⟨target, listed, named, _⟩ := (Operands.after_onlyVariable_iff _ _).1 read
    rw [listed]
    refine ⟨fun _ exceeds => ?_, fun _ => Form.isOnly_iff.2 ⟨_, rfl, named⟩⟩
    cases exceeds
  | stop =>
    rw [Form.admits, List.isEmpty_iff]
    constructor
    · intro nothing exceeds
      cases exceeds with
      | stop more => exact more nothing
    · intro within
      by_contra more
      exact within (.stop more)
  | jump =>
    obtain ⟨number, read, _⟩ := Step.ofExcept_bind_ok_cases done
    obtain ⟨token, listed, readToken⟩ := (Operands.after_target_iff _ _).1 read
    have lexed : token.Lexed := Operands.lexed_of_mem_operandTokens (by rw [listed]; exact List.mem_cons_self)
    have numeral : token.isLineNumber = true := Token.isLineNumber_iff.2 (lexed.allDigits readToken)
    rw [listed]
    refine ⟨fun _ exceeds => ?_, fun _ => Form.isOnly_iff.2 ⟨_, rfl, numeral⟩⟩
    cases exceeds
  | branch => exact admits_branch_iff done

/-- A text that has been executed without a failure is refused by the check exactly if it
    has a second `=` after `LET`, a bracket after `PRINT`, a bracket in an operand of a
    branch, an `=` in its right one or a target that is no number, or anything after `END`.
    What `INPUT`, `GOTO` and `REM` execute can be stored, and a branch whose relation holds
    has a number for its target. -/
theorem refused_iff_exceeds {keyword : Keyword} (starts : Statement.keyword? text = .ok (some keyword))
    (done : execute ⟨.known keyword, text⟩ session = .ok () after) :
    ∃ operands, tokenize text = .ok (⟨.word, keyword.word⟩ :: operands) ∧
      (Form.check text = .error (.fault .malformed) ↔ Exceeds keyword operands) ∧
      (keyword = .input ∨ keyword = .jump ∨ keyword = .remark → Form.check text = .ok ()) ∧
      (keyword = .branch → ∃ branch left right vars, Branch.ofTokens? operands = some branch ∧
        branch.values session.vars = .ok (left, right) vars ∧
        (¬ branch.target.AllDigits → branch.relation.holds left right = false)) := by
  obtain ⟨start, vars, performed⟩ := perform_of_execute_ok done
  have passed := (Form.check_iff_admits starts).trans (admits_iff_not_exceeds starts performed)
  refine ⟨Operands.operandTokens text, by rw [tokenize_eq, Statement.tokens_of_keyword? starts], ?_, ?_, ?_⟩
  · rcases Form.check_cases text with admitted | refused
    · simpa [admitted] using passed.1 admitted
    · simpa [refused] using passed.symm
  · rintro (rfl | rfl | rfl)
    all_goals exact passed.2 nofun
  · rintro rfl
    obtain ⟨branch, left, right, reached, parted, valued, reads⟩ := perform_branch_ok_cases performed
    refine ⟨branch, left, right, reached, parted, vars ▸ valued, fun unread => ?_⟩
    by_contra relates
    obtain ⟨number, read⟩ := reads (by simpa using relates)
    exact unread ((Branch.lexed_of_parted parted).2.allDigits read)

/-- With 5 in `A`, `IF A < 1 THEN B` goes on to the next line, and the check refuses it. -/
theorem refused_iff_exceeds_target :
    Statement.keyword? "IF A < 1 THEN B" = .ok (some .branch) ∧
      ((execute ⟨.known .branch, "IF A < 1 THEN B"⟩).outcome { vars := ⟨[("A", 5)]⟩, budget := 1 }).1 = .ok () ∧
      Form.check "IF A < 1 THEN B" = .error (.fault .malformed) ∧
      Exceeds .branch [⟨.word, "A"⟩, ⟨.operator, "<"⟩, ⟨.number, "1"⟩, ⟨.word, "THEN"⟩, ⟨.word, "B"⟩] := by
  have starts : Statement.keyword? "IF A < 1 THEN B" = .ok (some .branch) := by decide +kernel
  have answered : ((execute ⟨.known .branch, "IF A < 1 THEN B"⟩).outcome { vars := ⟨[("A", 5)]⟩, budget := 1 }).1 =
      .ok () := by decide +kernel
  have refused : Form.check "IF A < 1 THEN B" = .error (.fault .malformed) := by decide +kernel
  have all : tokenize "IF A < 1 THEN B" = .ok [⟨.word, "IF"⟩, ⟨.word, "A"⟩, ⟨.operator, "<"⟩, ⟨.number, "1"⟩,
      ⟨.word, "THEN"⟩, ⟨.word, "B"⟩] := by decide +kernel
  obtain ⟨operands, listed, exceeds, _⟩ := refused_iff_exceeds starts (Step.eq_ok_of_outcome answered)
  rw [all, Except.ok.injEq, List.cons.injEq] at listed
  obtain ⟨_, rfl⟩ := listed
  exact ⟨starts, answered, refused, exceeds.1 refused⟩

end Session

end LineBasic
