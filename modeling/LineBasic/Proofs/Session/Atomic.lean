import Mathlib
import LineBasic.Proofs.Session.Perform
import LineBasic.Proofs.Session.Reachable
import LineBasic.Proofs.Statement.Form

/-!
Stored statements are atomic. A statement typed at once may assign a variable and
then fail; a stored one may not, since the check of a line keeps out every
expression that could. A stored statement that fails leaves the variables and the
program as they were, and a failing `PRINT` has written nothing
(`Reachable.atomic_stored`).
-/
namespace LineBasic.Session

/-! ### Evaluation -/

theorem leaves_onVariables {τ α : Type} (view : Session → τ) {action : Step Variables α}
    (leaves : Step.Leaves (fun vars => vars) action) : Step.Leaves view (onVariables action) := by
  refine Step.Leaves.onPart leaves ?_
  exact fun _ => rfl

/-- An expression that assigns nothing is evaluated without a trace. -/
theorem leaves_evaluate {τ : Type} (view : Session → τ) {result : Except Stop Expr}
    (pure : ∀ expression, result = .ok expression → expression.Pure) : Step.Leaves view (evaluate result) := by
  refine Step.ofExcept_bind_cases (Step.Leaves view) (fun expression read => ?_) Step.leaves_throw
  exact leaves_onVariables view (pure expression read).leaves_eval

/-- A chain is evaluated without a trace where that fails. -/
theorem atomic_evaluate {τ : Type} (view : Session → τ) {result : Except Stop Expr}
    (chain : ∀ expression, result = .ok expression → expression.Chain) : Step.Atomic view (evaluate result) := by
  refine Step.ofExcept_bind_cases (Step.Atomic view) (fun expression read => ?_) fun stop =>
    (Step.leaves_throw stop).atomic
  refine Step.Atomic.onPart (chain expression read).atomic_eval ?_
  exact fun _ => rfl

theorem atomic_jump {τ : Type} (view : Session → τ) (number : Int) :
    Step.Atomic view (onProgram (Program.jump number)) := by
  have jumps : Step.Atomic (fun program : Program => program) (Program.jump number) := by
    intro program stop reached ended
    unfold Program.jump at ended
    split_ifs at ended with stored
    cases ended
    rfl
  refine Step.Atomic.onPart jumps ?_
  exact fun _ => rfl

/-! ### Statements -/

/-- The operands of an admitted condition assign nothing. -/
theorem pure_of_admitsCondition {source : String} {branch : Branch}
    (admitted : Form.admitsCondition (Operands.operandTokens source) = true)
    (split : Branch.ofTokens? (Operands.operandTokens source) = some branch) (expression : Expr) :
    (Expr.ofTokens branch.left = .ok expression → expression.Pure) ∧
      (Expr.ofTokens branch.right = .ok expression → expression.Pure) := by
  obtain ⟨sign, word, parts, _, _, free, _⟩ := Branch.ofTokens?_eq_some_iff.1 split
  obtain ⟨branch', split', _, _, plain⟩ := Form.admitsCondition_iff.1 admitted
  obtain rfl : branch = branch' := by simpa [split] using split'
  constructor
  · intro read
    have proper : ∀ token ∈ branch.left, token.isEnding = false := fun token member =>
      Operands.isEnding_of_mem_operandTokens (show token ∈ Operands.operandTokens source by simp [parts, member])
    have derived := (Expr.ofTokens_iff_derives proper expression).1 read
    exact derived.pure fun token member => Form.isSign_eq_false_of_isRelation (free token member)
  · intro read
    have proper : ∀ token ∈ branch.right, token.isEnding = false := fun token member =>
      Operands.isEnding_of_mem_operandTokens (show token ∈ Operands.operandTokens source by simp [parts, member])
    have derived := (Expr.ofTokens_iff_derives proper expression).1 read
    exact derived.pure fun token member => Form.isSign_eq_false_of_isRelation (plain token member).1

/-- An admitted assignment begins with its variable, and its expression assigns nothing. -/
theorem pure_of_admitsAssignment {source : String} {answer : String × Expr}
    (admitted : Form.admitsAssignment (Operands.operandTokens source) = true)
    (read : Operands.after Operands.assignment source = .ok answer) :
    answer.2.Pure ∧ ∃ later, Operands.operandTokens source = ⟨.word, answer.1⟩ :: later := by
  obtain ⟨target, sign, tokens, split, named, text, _, derived⟩ := (Operands.after_assignment_iff _ _).1 read
  obtain ⟨target', sign', tokens', split', _, _, free⟩ := Form.admitsAssignment_iff.1 admitted
  rw [split] at split'
  obtain ⟨rfl, rfl, rfl⟩ : target = target' ∧ sign = sign' ∧ tokens = tokens' := by simpa using split'
  obtain ⟨kind, _⟩ := target
  obtain ⟨word, _⟩ := Bool.and_eq_true_iff.1 named
  obtain rfl : kind = .word := beq_iff_eq.1 word
  obtain rfl := text
  exact ⟨derived.pure free, sign :: tokens, split⟩

/-- A checked `PRINT` that fails leaves the console too. -/
theorem atomic_print {source : String} (starts : Statement.keyword? source = .ok (some .print))
    (checked : Form.check source = .ok ()) : Step.Atomic content (perform .print source) := by
  have plain := (Form.admitsPrinting_iff starts).1 ((Form.check_iff_admits starts).1 checked)
  refine (atomic_evaluate content fun expression read => ?_).bind fun value =>
    (succeeds_say _).bind fun _ => succeeds_advance
  have derived := (Operands.after_readAll_iff source expression).1 read
  exact derived.chain fun token member => Form.isSign_eq_false_of_isPlain (plain token member)

/-- What a checked statement does is done as a whole or not at all. -/
theorem atomic_perform {source : String} {keyword : Keyword} (starts : Statement.keyword? source = .ok (some keyword))
    (checked : Form.check source = .ok ()) : Step.Atomic holdings (perform keyword source) := by
  have admitted := (Form.check_iff_admits starts).1 checked
  cases keyword with
  | remark => exact succeeds_advance.atomic
  | stop => exact (Step.succeeds_modify _).atomic
  | print =>
    intro session stop reached ended
    exact congrArg Prod.fst (atomic_print starts checked ended)
  | assign =>
    refine Step.ofExcept_bind_cases (Step.Atomic holdings) (fun answer read => ?_) fun stop =>
      (Step.leaves_throw stop).atomic
    have pure := (pure_of_admitsAssignment admitted read).1
    refine (leaves_onVariables holdings pure.leaves_eval).atomic_bind fun value => ?_
    exact ((succeeds_assign _ value).bind fun _ => succeeds_advance).atomic
  | input =>
    refine (Step.leaves_ofExcept _).atomic_bind fun name => Step.leaves_get.atomic_bind fun session => ?_
    refine (leaves_askInteger (fun _ _ _ => rfl) _).atomic_bind fun value => ?_
    exact ((succeeds_assign name value).bind fun _ => succeeds_advance).atomic
  | jump => exact (Step.leaves_ofExcept _).atomic_bind fun number => atomic_jump holdings number
  | branch =>
    refine Step.ofExcept_bind_cases (Step.Atomic holdings) (fun tokens read => ?_) fun stop =>
      (Step.leaves_throw stop).atomic
    rw [Operands.after_remaining, Except.ok.injEq] at read
    subst read
    cases split : Branch.ofTokens? (Operands.operandTokens source) with
    | none => exact (Step.leaves_fail _).atomic
    | some branch =>
      have pure := pure_of_admitsCondition admitted split
      refine (leaves_evaluate holdings fun expression => (pure expression).1).atomic_bind fun left => ?_
      refine (leaves_evaluate holdings fun expression => (pure expression).2).atomic_bind fun right => ?_
      split_ifs with relates
      · exact (Step.leaves_ofExcept _).atomic_bind fun number => atomic_jump holdings number
      · exact succeeds_advance.atomic

/-- Executing a statement is as atomic as what its keyword does. -/
theorem atomic_execute {τ : Type} (view : (Program × Variables) × Console → τ) {keyword : Keyword} {source : String}
    (atomic : Step.Atomic (fun session => view session.content) (perform keyword source)) :
    Step.Atomic (fun session => view session.content) (execute ⟨.known keyword, source⟩) := by
  refine (leaves_countDown.comp view).atomic_bind fun _ => Step.leaves_get.atomic_bind fun session => ?_
  exact ((leaves_note _ _ _).comp view).atomic_bind fun _ => atomic

/-- A statement stored in a session that comes about leaves the variables, the lines
    and the cursor as they were if it fails, wherever it is executed and whatever it
    fails with. A `PRINT` that fails has written nothing. -/
theorem Reachable.atomic_stored {session : Session} (reachable : session.Reachable) {number : Int}
    {statement : Statement} (stored : session.program.get? number = some statement) {start after : Session}
    {stop : Stop} (failed : execute statement start = .error stop after) :
    after.vars = start.vars ∧ after.program.lines = start.program.lines ∧
      after.program.cursor = start.program.cursor ∧
      (statement.kind = .known .print → after.console = start.console) := by
  obtain ⟨checked, keyword, starts, kind⟩ := reachable.proper.program.checked _ (Program.mem_of_get? stored)
  obtain ⟨_, source⟩ := statement
  obtain rfl : _ = StatementKind.known keyword := kind
  have kept : after.holdings = start.holdings := atomic_execute Prod.fst (atomic_perform starts checked) failed
  refine ⟨congrArg Prod.snd kept, congrArg (fun held => held.1.lines) kept, congrArg (fun held => held.1.cursor) kept, ?_⟩
  intro prints
  cases prints
  exact congrArg Prod.snd (atomic_execute id (atomic_print starts checked) failed)

/-- `PRINT A = B = 1 / 0` in a program assigns neither variable. -/
theorem atomic_stored_chain :
    ∃ session after : Session, session.Reachable ∧
      session.program.get? 10 = some ⟨.known .print, "PRINT A = B = 1 / 0"⟩ ∧
      execute ⟨.known .print, "PRINT A = B = 1 / 0"⟩ session = .error (.fault .divisionByZero) after ∧
      after.vars = session.vars ∧ after.program.lines = session.program.lines ∧
      after.program.cursor = session.program.cursor ∧ after.console = session.console := by
  have reachable := (Reachable.fresh {} 1).call (.accept "10 PRINT A = B = 1 / 0")
  have stored : ((Call.accept "10 PRINT A = B = 1 / 0").action.reached { budget := 1 }).program.get? 10 =
      some ⟨.known .print, "PRINT A = B = 1 / 0"⟩ := by decide +kernel
  have failed := Step.eq_error_of_outcome (show ((execute ⟨.known .print, "PRINT A = B = 1 / 0"⟩).outcome
    ((Call.accept "10 PRINT A = B = 1 / 0").action.reached { budget := 1 })).1 = .error (.fault .divisionByZero) by
      decide +kernel)
  obtain ⟨vars, lines, cursor, console⟩ := reachable.atomic_stored stored failed
  exact ⟨_, _, reachable, stored, failed, vars, lines, cursor, console rfl⟩

-- Typed at once, a line may assign in brackets before it fails.
example : ((accept "LET X = (Y = 2) / 0").reached { budget := 1 }).vars.entries = [("Y", 2)] := by decide +kernel

end LineBasic.Session
