import Mathlib
import LineBasic.Proofs.Number.Decimal
import LineBasic.Proofs.Session.Moves
import LineBasic.Proofs.Session.Perform
import LineBasic.Proofs.Statement.Sentence

/-!
What the check of a line promises for its execution. A checked line is handed to the
statement of its keyword, and fails for its form no more, unless an expression in it is
none (`execute_of_check`). A branch is split for execution as it was for the check, and
once its operands have values it does what a jump does, or goes on.
-/
namespace LineBasic

namespace Session

/-- In no session the statement fails for its form. -/
def NeverMalformed (keyword : Keyword) (text : String) : Prop :=
  ∀ session after, perform keyword text session ≠ .error (.fault .malformed) after

/-- How a jump to a number fails: the number is too high, or there is no such line. -/
def JumpFails (text number : String) : Prop :=
  ∀ session stop after, perform .jump text session = .error stop after →
    stop = .fault .invalidNumber ∧ Word.highest < (Decimal.value number.toList : Int) ∨
      stop = .fault .noSuchLine ∧ session.program.contains (Decimal.value number.toList : Int) = false

/-- The branch is malformed where its left operand is no expression, or its right one,
    after the left one has got a value. -/
def BranchFails (text : String) (branch : Branch) : Prop :=
  ∀ session after, perform .branch text session = .error (.fault .malformed) after →
    Expr.ofTokens branch.left = .error (.fault .malformed) ∨
      ∃ left first vars, Expr.ofTokens branch.left = .ok left ∧ left.eval session.vars = .ok first vars ∧
        Expr.ofTokens branch.right = .error (.fault .malformed)

/-- Once both operands have values, the branch jumps if its relation holds of them, and
    goes on to the next line if not. -/
def BranchActs (text : String) (branch : Branch) : Prop :=
  ∀ session left first middle right second vars,
    Expr.ofTokens branch.left = .ok left → left.eval session.vars = .ok first middle →
    Expr.ofTokens branch.right = .ok right → right.eval middle = .ok second vars →
    perform .branch text session =
      if branch.relation.holds first second then
        perform .jump ("GOTO " ++ branch.target.text) { session with vars := vars }
      else advance { session with vars := vars }

/-- What executing a text can still come to, by its keyword and the tokens after it. -/
def Executes (text : String) (operands : List Token) : Keyword → Prop
  | .remark => NeverMalformed .remark text
  | .input => NeverMalformed .input text
  | .stop => NeverMalformed .stop text
  | .jump =>
    NeverMalformed .jump text ∧ ∃ number, operands = [⟨.number, number⟩] ∧
      (number.toList.length ≤ digitLimit → JumpFails text number)
  | .assign =>
    ∃ name source, operands = ⟨.word, name⟩ :: ⟨.operator, "="⟩ :: source ∧
      ∀ session after, perform .assign text session = .error (.fault .malformed) after →
        Expr.ofTokens source = .error (.fault .malformed)
  | .print =>
    ∀ session after, perform .print text session = .error (.fault .malformed) after →
      Expr.ofTokens operands = .error (.fault .malformed)
  | .branch =>
    ∃ (branch : Branch) (sign : Token) (number : String),
      operands = branch.left ++ sign :: (branch.right ++ [⟨.word, "THEN"⟩, ⟨.number, number⟩]) ∧ sign.Relational ∧
      (∀ token ∈ branch.left, token.Plain ∧ ¬ token.Relational) ∧
      (∀ token ∈ branch.right, token.Plain ∧ ¬ token.Relational ∧ token ≠ ⟨.word, "THEN"⟩) ∧
      branch.target = ⟨.number, number⟩ ∧ sign.relation? = some branch.relation ∧
      Branch.ofTokens? operands = some branch ∧ BranchFails text branch ∧ BranchActs text branch

variable {text : String} {operands : List Token}

/-! ### Jumps -/

/-- A numeral of digits is not empty. -/
theorem ne_nil_of_number {number : String} (listed : ⟨.number, number⟩ ∈ Operands.operandTokens text) :
    number.toList ≠ [] := by
  have lexed := Operands.lexed_of_mem_operandTokens listed
  generalize token : (⟨.number, number⟩ : Token) = found at lexed
  cases lexed with
  | word => cases token
  | sign => cases token
  | numeral =>
    cases token
    simp

theorem operandTokens_goto {number : String} (some : number.toList ≠ []) (digits : ∀ c ∈ number.toList, c.isDigit = true) :
    Operands.operandTokens ("GOTO " ++ number) = [⟨.number, number⟩] := by
  have word : Lexer.tokens "GOTO ".toList = [⟨.word, "GOTO"⟩] := by
    have listed : tokenize "GOTO " = .ok [⟨.word, "GOTO"⟩] := by decide +kernel
    rwa [tokenize_eq, Except.ok.injEq] at listed
  have apart : Lexer.Apart "GOTO ".toList number.toList := by
    intro last isLast first _ run
    have blank : "GOTO ".toList.getLast? = Option.some ' ' := by decide +kernel
    rw [blank] at isLast
    cases isLast
    cases run
  rw [Operands.operandTokens, String.toList_append, Lexer.tokens_append apart, word, Lexer.tokens_of_digits some digits,
    String.ofList_toList]
  rfl

theorem perform_goto {number : String} (listed : Operands.operandTokens text = [⟨.number, number⟩]) (session : Session) :
    perform .jump text session =
      match Decimal.readLiteral number with
      | .error stop => .error stop session
      | .ok target => onProgram (Program.jump target) session := by
  have jumps := perform_jump text session
  rw [Operands.after_target listed] at jumps
  exact jumps

theorem neverMalformed_jump {number : String} (listed : Operands.operandTokens text = [⟨.number, number⟩]) :
    NeverMalformed .jump text := by
  intro session after failed
  rcases perform_jump_error_cases failed with unread | ⟨_, _, other, _⟩
  · rw [Operands.after_target listed] at unread
    cases Decimal.readLiteral_error unread
  · cases other

theorem jumpFails_of_digits {number : String} (listed : Operands.operandTokens text = [⟨.number, number⟩])
    (digits : ∀ c ∈ number.toList, c.isDigit = true) (short : number.toList.length ≤ digitLimit) :
    JumpFails text number := by
  intro session stop after failed
  have some := ne_nil_of_number (by rw [listed]; exact List.mem_cons_self)
  have failures := perform_jump_error_cases failed
  rw [Operands.after_target listed, Decimal.readLiteral_of_digits some digits, if_neg (not_lt.2 short)] at failures
  by_cases inside : (Decimal.value number.toList : Int) ≤ Word.highest
  · rw [if_pos inside] at failures
    rcases failures with unread | ⟨target, read, missed, absent⟩
    · cases unread
    · cases read
      exact .inr ⟨missed, absent⟩
  · rw [if_neg inside] at failures
    rcases failures with unread | ⟨target, read, _⟩
    · cases unread
      exact .inl ⟨rfl, not_le.1 inside⟩
    · cases read

/-! ### Branches -/

theorem branchFails_of_parted {branch : Branch} (parted : Branch.ofTokens? (Operands.operandTokens text) = some branch) :
    BranchFails text branch := by
  intro session after failed
  rcases perform_branch_error_cases parted failed with ⟨vars, unvalued⟩ | ⟨_, _, _, _, _, missed⟩
  · rcases Branch.values_error_cases unvalued with unread | ⟨left, first, middle, read, valued, unread⟩ | other
    · exact .inl unread
    · exact .inr ⟨left, first, middle, read, valued, unread⟩
    · cases other
  · rcases missed with unread | ⟨_, _, other, _⟩
    · cases Decimal.readLiteral_error unread
    · cases other

theorem branchActs_of_parted {branch : Branch} (parted : Branch.ofTokens? (Operands.operandTokens text) = some branch)
    (some : branch.target.text.toList ≠ []) (digits : ∀ c ∈ branch.target.text.toList, c.isDigit = true) :
    BranchActs text branch := by
  intro session left first middle right second vars readLeft valueLeft readRight valueRight
  have values : branch.values session.vars = .ok (first, second) vars := by
    unfold Branch.values
    simp only [Step.bind_apply, readLeft, Step.ofExcept_ok, valueLeft, readRight, valueRight]
    rfl
  rw [perform_branch, parted]
  simp only [values]
  by_cases relates : branch.relation.holds first second = true
  · rw [if_pos relates, if_pos relates]
    exact (perform_goto (operandTokens_goto some digits) { session with vars := vars }).symm
  · rw [if_neg relates, if_neg relates]
    rfl

/-! ### Checked lines -/

theorem executes_of_follows {keyword : Keyword} (listed : Operands.operandTokens text = operands)
    (follows : Follows keyword operands) : Executes text operands keyword := by
  cases follows with
  | remark comment => exact fun session after => @succeeds_advance session _ after
  | stop => exact fun session after => @Step.succeeds_modify _ _ session _ after
  | @input name identifies =>
    intro session after failed
    have named : Token.isVariable ⟨.word, name⟩ = true := Token.isVariable_iff.2 ⟨name, rfl, identifies⟩
    have read := (Operands.after_onlyVariable_iff text name).2 ⟨_, listed, named, rfl⟩
    rcases perform_input_error_cases failed with unread | other
    · rw [read] at unread
      cases unread
    · cases stopsOnly_askInteger _ other
  | @jump number digits => exact ⟨neverMalformed_jump listed, number, rfl, jumpFails_of_digits listed digits⟩
  | @assign name source identifies once =>
    refine ⟨name, source, rfl, fun session after failed => ?_⟩
    rcases perform_assign_error_cases failed with unread | other
    · rw [Operands.after_assignment listed identifies] at unread
      cases read : Expr.ofTokens source with
      | ok expression =>
        rw [read] at unread
        cases unread
      | error stop =>
        rw [read] at unread
        cases unread
        rfl
    · cases other
  | print plain =>
    intro session after failed
    rcases perform_print_error_cases failed with unread | other
    · rwa [Operands.after_readAll, listed] at unread
    · cases other
  | @branch left right sign number relates plainLeft plainRight digits =>
    obtain ⟨relation, found, parted⟩ := Branch.ofTokens?_of_parts ⟨.number, number⟩ relates
      (fun token member => (plainLeft token member).2) (fun token member => (plainRight token member).2.2)
    have some := @ne_nil_of_number text number (by rw [listed]; simp)
    refine ⟨⟨left, relation, right, ⟨.number, number⟩⟩, sign, number, rfl, relates, plainLeft, plainRight, rfl, found,
      parted, ?_, ?_⟩
    · exact branchFails_of_parted (listed ▸ parted)
    · exact branchActs_of_parted (listed ▸ parted) some digits

/-- A checked text is executed as a statement of its keyword, and what that can still
    come to is known from the tokens after it. -/
theorem execute_of_check (checked : Form.check text = .ok ()) :
    ∃ keyword operands, tokenize text = .ok (⟨.word, keyword.word⟩ :: operands) ∧
      Statement.keyword? text = .ok (some keyword) ∧
      (∀ (session : Session) left, session.budget = left + 1 →
        ∃ noted, execute ⟨.known keyword, text⟩ session =
          perform keyword text { session with budget := left, noted := noted }) ∧
      Executes text operands keyword := by
  have sentence := (Form.check_eq_ok_iff text).1 checked
  cases listed : Lexer.tokens text.toList with
  | nil =>
    rw [listed] at sentence
    cases sentence
  | cons first operands =>
    rw [listed] at sentence
    cases sentence with
    | @intro keyword _ follows =>
      have starts : Token.keyword? ⟨.word, keyword.word⟩ = some keyword := Token.keyword?_eq_some_iff.2 ⟨rfl, rfl⟩
      refine ⟨keyword, operands, by rw [tokenize_eq, listed], ?_, ?_, ?_⟩
      · rw [Statement.keyword?_eq, listed, List.head?_cons, Option.bind_some, starts]
      · exact fun session left budget => execute_known keyword text budget
      · exact executes_of_follows (by rw [Operands.operandTokens, listed, List.tail_cons]) follows

/-- In `IF THEN < A THEN 0020` the first `THEN` is the left operand, for the check as for
    the execution. It is no expression, so that the line is refused when it is executed. -/
theorem execute_of_check_then :
    Form.check "IF THEN < A THEN 0020" = .ok () ∧
      Statement.keyword? "IF THEN < A THEN 0020" = .ok (some .branch) ∧
      Expr.ofTokens [⟨.word, "THEN"⟩] = .error (.fault .malformed) ∧
      BranchFails "IF THEN < A THEN 0020" ⟨[⟨.word, "THEN"⟩], .less, [⟨.word, "A"⟩], ⟨.number, "0020"⟩⟩ ∧
      BranchActs "IF THEN < A THEN 0020" ⟨[⟨.word, "THEN"⟩], .less, [⟨.word, "A"⟩], ⟨.number, "0020"⟩⟩ := by
  have checked : Form.check "IF THEN < A THEN 0020" = .ok () := by decide +kernel
  have first : Statement.keyword? "IF THEN < A THEN 0020" = .ok (some .branch) := by decide +kernel
  have all : tokenize "IF THEN < A THEN 0020" = .ok [⟨.word, "IF"⟩, ⟨.word, "THEN"⟩, ⟨.operator, "<"⟩, ⟨.word, "A"⟩,
      ⟨.word, "THEN"⟩, ⟨.number, "0020"⟩] := by decide +kernel
  obtain ⟨keyword, operands, listed, starts, _, executes⟩ := execute_of_check checked
  rw [first, Except.ok.injEq, Option.some.injEq] at starts
  rw [all, Except.ok.injEq, List.cons.injEq] at listed
  obtain ⟨_, rfl⟩ := listed
  subst starts
  obtain ⟨branch, _, _, _, _, _, _, _, _, parted, fails, acts⟩ := executes
  have parts : Branch.ofTokens? [⟨.word, "THEN"⟩, ⟨.operator, "<"⟩, ⟨.word, "A"⟩, ⟨.word, "THEN"⟩, ⟨.number, "0020"⟩] =
      some ⟨[⟨.word, "THEN"⟩], .less, [⟨.word, "A"⟩], ⟨.number, "0020"⟩⟩ := by decide +kernel
  rw [parts, Option.some.injEq] at parted
  subst parted
  exact ⟨checked, first, by decide +kernel, fails, acts⟩

end Session

end LineBasic
