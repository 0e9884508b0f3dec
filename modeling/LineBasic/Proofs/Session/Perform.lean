import Mathlib
import LineBasic.Proofs.Expr.Causes
import LineBasic.Proofs.Expr.Effects
import LineBasic.Proofs.Statement.Operands
import LineBasic.Session.Execute

/-!
What `GOTO`, `IF` and the evaluation of an expression come to in a session: only the
variables and the cursor matter to them (`perform_jump`, `perform_branch`). For each
keyword it is told why its statement fails (`perform_jump_error_cases` and its like).
-/
namespace LineBasic

/-- The values of the operands of a branch, the left one first. -/
def Branch.values (branch : Branch) : Step Variables (Int × Int) := do
  let left ← Step.ofExcept (Expr.ofTokens branch.left)
  let first ← left.eval
  let right ← Step.ofExcept (Expr.ofTokens branch.right)
  let second ← right.eval
  return (first, second)

namespace Operands

theorem stopsOnly_variableName : Step.StopsOnly Stop.OfReading variableName := by
  refine Scanner.stopsOnly_next.bind fun token => ?_
  split_ifs
  · exact Step.stopsOnly_pure _
  · exact Step.stopsOnly_fail .malformed

theorem stopsOnly_assignment : Step.StopsOnly Stop.OfReading assignment := by
  refine stopsOnly_variableName.bind fun name => Scanner.stopsOnly_next.bind fun sign => ?_
  split_ifs
  · exact Expr.stopsOnly_readAll.bind fun source => Step.stopsOnly_pure _
  · exact Step.stopsOnly_fail .malformed

theorem stopsOnly_onlyVariable : Step.StopsOnly Stop.OfReading onlyVariable := by
  refine stopsOnly_variableName.bind fun name => Scanner.stopsOnly_hasMore.bind fun more => ?_
  split_ifs
  · exact Step.stopsOnly_fail .malformed
  · exact Step.stopsOnly_pure _

theorem stopsOnly_target : Step.StopsOnly Stop.OfReading target := by
  refine Scanner.stopsOnly_next.bind fun token => (Expr.stopsOnly_readLiteral _).bind fun number => ?_
  refine Scanner.stopsOnly_hasMore.bind fun more => ?_
  split_ifs
  · exact Step.stopsOnly_fail .malformed
  · exact Step.stopsOnly_pure _

/-- What is read after the keyword stops for the reasons of reading. -/
theorem ofReading_of_after {α : Type} {reader : Step Scanner α} (stops : Step.StopsOnly Stop.OfReading reader)
    {text : String} {stop : Stop} (ended : after reader text = .error stop) : stop.OfReading :=
  (Scanner.stopsOnly_next.bind fun _ => stops).isolated ended

end Operands

theorem Expr.ofReading_of_ofTokens {tokens : List Token} {stop : Stop} (ended : ofTokens tokens = .error stop) :
    stop.OfReading :=
  stopsOnly_readAll.isolated ended

namespace Branch

/-- The operands have no values where one of them is no expression, the right one
    after the left one has a value, or where one cannot be evaluated. -/
theorem values_error_cases {branch : Branch} {vars after : Variables} {stop : Stop}
    (ended : branch.values vars = .error stop after) :
    Expr.ofTokens branch.left = .error stop ∨
      (∃ left first middle, Expr.ofTokens branch.left = .ok left ∧ left.eval vars = .ok first middle ∧
        Expr.ofTokens branch.right = .error stop) ∨
      stop.OfEvaluation := by
  unfold values at ended
  cases readLeft : Expr.ofTokens branch.left with
  | error cause =>
    rw [Step.bind_apply, readLeft, Step.ofExcept_error] at ended
    cases ended
    exact .inl rfl
  | ok left =>
    rw [Step.bind_apply, readLeft, Step.ofExcept_ok] at ended
    cases first : left.eval vars with
    | error cause middle =>
      simp only [Step.bind_apply, first] at ended
      cases ended
      exact .inr (.inr (Expr.stopsOnly_eval left first))
    | ok value middle =>
      simp only [Step.bind_apply, first] at ended
      cases readRight : Expr.ofTokens branch.right with
      | error cause =>
        rw [readRight, Step.ofExcept_error] at ended
        cases ended
        exact .inr (.inl ⟨left, value, _, rfl, first, rfl⟩)
      | ok right =>
        rw [readRight, Step.ofExcept_ok] at ended
        cases second : right.eval middle with
        | error cause last =>
          simp only [second] at ended
          cases ended
          exact .inr (.inr (Expr.stopsOnly_eval right second))
        | ok other last =>
          simp only [second] at ended
          cases ended

end Branch

namespace Session

theorem evaluate_apply (result : Except Stop Expr) (session : Session) :
    evaluate result session =
      match result with
      | .error stop => .error stop session
      | .ok expression =>
        match expression.eval session.vars with
        | .ok value vars => .ok value { session with vars := vars }
        | .error stop vars => .error stop { session with vars := vars } := by
  cases result with
  | error stop => rfl
  | ok expression =>
    change onVariables expression.eval session = _
    unfold onVariables Step.onPart
    dsimp only
    cases expression.eval session.vars with
    | ok value vars => rfl
    | error stop vars => rfl

/-- A failing evaluation was not read, or fails for the reasons of evaluation. -/
theorem evaluate_error_cases {result : Except Stop Expr} {session after : Session} {stop : Stop}
    (ended : evaluate result session = .error stop after) : result = .error stop ∨ stop.OfEvaluation := by
  rw [evaluate_apply] at ended
  cases result with
  | error cause =>
    cases ended
    exact .inl rfl
  | ok expression =>
    cases done : expression.eval session.vars with
    | ok value vars => simp [done] at ended
    | error cause vars =>
      simp only [done, EStateM.Result.error.injEq] at ended
      exact .inr (ended.1 ▸ Expr.stopsOnly_eval expression done)

/-- The cursor is put on a line of the program, or there is none of the number. -/
theorem jump_apply (number : Int) (session : Session) :
    onProgram (Program.jump number) session =
      if session.program.contains number then
        .ok () { session with program := { session.program with cursor := some number } }
      else .error (.fault .noSuchLine) session := by
  unfold onProgram Step.onPart Program.jump
  by_cases stored : session.program.contains number = true
  · simp only [stored, ↓reduceIte]
  · simp only [stored]
    rfl

/-- A jump fails for want of the line only. -/
theorem jump_error_cases {number : Int} {session after : Session} {stop : Stop}
    (failed : onProgram (Program.jump number) session = .error stop after) :
    stop = .fault .noSuchLine ∧ session.program.contains number = false := by
  rw [jump_apply] at failed
  by_cases stored : session.program.contains number = true
  · rw [if_pos stored] at failed
    cases failed
  · rw [if_neg stored] at failed
    cases failed
    exact ⟨rfl, by simpa using stored⟩

/-- A line that is asked for is taken from the replies. The prompt is shown in any case. -/
theorem ask_apply (prompt : String) (session : Session) :
    ask prompt session =
      match session.console.replies with
      | [] => .error .endOfInput { session with console := session.console.record (.prompt prompt) }
      | .interruption :: later =>
        .error .interrupted
          { session with console := { session.console.record (.prompt prompt) with replies := later } }
      | .line text :: later =>
        .ok text { session with console := { session.console.record (.prompt prompt) with replies := later } } := by
  unfold ask onConsole Step.onPart Console.ask
  dsimp only
  cases session.console.replies with
  | nil => rfl
  | cons reply later => cases reply <;> rfl

/-! ### Actions that never fail -/

theorem succeeds_advance : Step.Succeeds advance := Step.succeeds_modify _

theorem succeeds_assign (name : String) (value : Int) : Step.Succeeds (onVariables (Variables.assign name value)) :=
  (Expr.succeeds_assign name value).onPart

theorem succeeds_say (text : String) : Step.Succeeds (say text) := by
  have writes : Step.Succeeds (Console.say text) := by
    intro console stop reached ended
    cases ended
  unfold say onConsole
  exact writes.onPart

/-! ### Why statements fail -/

theorem stopsOnly_askInteger (bound : Nat) : Step.StopsOnly Stop.OfAsking (askInteger bound) := by
  have asks : Step.StopsOnly Stop.OfAsking (Console.ask inputPrompt) := by
    intro console stop reached ended
    unfold Console.ask at ended
    dsimp only at ended
    split at ended
    · cases ended
      exact .endOfInput
    · cases ended
      exact .interrupted
    · cases ended
  induction bound with
  | zero => exact Step.stopsOnly_throw .endOfInput
  | succ bound ih =>
    refine asks.onPart.bind fun reply => ?_
    cases read : Decimal.readReply reply with
    | ok value => exact Step.stopsOnly_pure value
    | error stop =>
      cases Decimal.readReply_error read with
      | invalidNumber =>
        refine (Step.stopsOnly_modify _).bind fun _ => ?_
        exact (succeeds_say _).stopsOnly.bind fun _ => ih
      | tooManyDigits long => exact Step.stopsOnly_throw (.tooManyDigits long)

/-- `LET` fails in reading its operands or in evaluating them. -/
theorem perform_assign_error_cases {source : String} {session after : Session} {stop : Stop}
    (ended : perform .assign source session = .error stop after) :
    Operands.after Operands.assignment source = .error stop ∨ stop.OfEvaluation := by
  rcases Step.ofExcept_bind_error_cases ended with unread | ⟨answer, _, ended⟩
  · exact .inl unread
  · rcases Step.bind_error_cases ended with failed | ⟨value, middle, _, failed⟩
    · exact .inr ((Expr.stopsOnly_eval answer.2).onPart failed)
    · exact absurd failed (((succeeds_assign _ value).bind fun _ => succeeds_advance) ·)

/-- `LET` gives its variable the value of its expression. -/
theorem perform_assign_ok {source name : String} {expression : Expr} {session : Session} {value : Int} {vars : Variables}
    (read : Operands.after Operands.assignment source = .ok (name, expression))
    (evaluated : expression.eval session.vars = .ok value vars) :
    perform .assign source session =
      .ok () { session with program := session.program.advance, vars := vars.set name value } := by
  have computed : onVariables expression.eval session = .ok value { session with vars := vars } := by
    rw [onVariables, Step.onPart, evaluated]
  unfold perform
  dsimp only
  rw [read, Step.ofExcept_ok_bind]
  dsimp only
  rw [Step.bind_apply, Stack.evaluate_unbounded, computed]
  rfl

theorem perform_print_error_cases {source : String} {session after : Session} {stop : Stop}
    (ended : perform .print source session = .error stop after) :
    Operands.after Expr.readAll source = .error stop ∨ stop.OfEvaluation := by
  rcases Step.bind_error_cases ended with failed | ⟨value, middle, _, failed⟩
  · exact evaluate_error_cases failed
  · exact absurd failed (((succeeds_say _).bind fun _ => succeeds_advance) ·)

/-- `PRINT` writes one line: the decimal text of the value. -/
theorem perform_print_ok {source : String} {session middle : Session} {n : Int}
    (evaluated : evaluate (Operands.after Expr.readAll source) session = .ok n middle) :
    perform .print source session =
      .ok () { middle with
        program := middle.program.advance
        console := middle.console.record (.line (Decimal.write n)) } := by
  change (evaluate (Operands.after Expr.readAll source) >>= fun value => say (Decimal.write value) >>= fun _ => advance :
    Action Unit) session = _
  rw [Step.bind_apply, evaluated]
  rfl

/-- `INPUT` fails in reading its operand or in asking for the value. -/
theorem perform_input_error_cases [Stack] [Screen] {source : String} {session after : Session} {stop : Stop}
    (ended : perform .input source session = .error stop after) :
    Operands.after Operands.onlyVariable source = .error stop ∨
      askInteger (session.console.replies.length + 1) session = .error stop after := by
  rcases Step.ofExcept_bind_error_cases ended with unread | ⟨name, _, ended⟩
  · exact .inl unread
  · change (askInteger (session.console.replies.length + 1) >>= _ : Action Unit) session = _ at ended
    rcases Step.bind_error_cases ended with failed | ⟨value, middle, _, failed⟩
    · exact .inr failed
    · exact absurd failed (((succeeds_assign name value).bind fun _ => succeeds_advance) ·)

theorem perform_jump [Stack] [Screen] (source : String) (session : Session) :
    perform .jump source session =
      match Operands.after Operands.target source with
      | .error stop => .error stop session
      | .ok number => onProgram (Program.jump number) session := by
  change (Step.ofExcept _ >>= _ : Action Unit) session = _
  cases Operands.after Operands.target source with
  | error stop => rfl
  | ok number => rfl

theorem perform_branch (source : String) (session : Session) :
    perform .branch source session =
      match Branch.ofTokens? (Operands.operandTokens source) with
      | none => .error (.fault .malformed) session
      | some branch =>
        match branch.values session.vars with
        | .error stop vars => .error stop { session with vars := vars }
        | .ok (left, right) vars =>
          if branch.relation.holds left right then
            match Decimal.readLiteral branch.target.text with
            | .error stop => .error stop { session with vars := vars }
            | .ok number => onProgram (Program.jump number) { session with vars := vars }
          else .ok () { session with vars := vars, program := session.program.advance } := by
  change (Step.ofExcept (Operands.after Scanner.remaining source) >>= _ : Action Unit) session = _
  rw [Operands.after_remaining, Step.ofExcept_ok_bind]
  cases Branch.ofTokens? (Operands.operandTokens source) with
  | none => rfl
  | some branch =>
    have reads (tokens : List Token) : Step.isolated Stack.read (Scanner.ofTokens tokens) = Expr.ofTokens tokens := rfl
    simp only [Step.bind_apply, evaluate_apply, Branch.values, reads]
    cases Expr.ofTokens branch.left with
    | error stop => rfl
    | ok left =>
      simp only [Step.ofExcept_ok]
      cases left.eval session.vars with
      | error stop vars => rfl
      | ok first vars =>
        dsimp only
        cases Expr.ofTokens branch.right with
        | error stop => rfl
        | ok right =>
          simp only [Step.ofExcept_ok]
          cases right.eval vars with
          | error stop vars => rfl
          | ok second vars =>
            simp only [Step.pure_apply]
            by_cases relates : branch.relation.holds first second = true
            · simp only [relates, ↓reduceIte, Step.bind_apply]
              cases Decimal.readLiteral branch.target.text with
              | error stop => rfl
              | ok number => rfl
            · simp only [relates]
              rfl

/-- A jump fails in reading its target, or because there is no such line. -/
theorem perform_jump_error_cases [Stack] [Screen] {source : String} {session after : Session} {stop : Stop}
    (ended : perform .jump source session = .error stop after) :
    Operands.after Operands.target source = .error stop ∨
      ∃ number, Operands.after Operands.target source = .ok number ∧ stop = .fault .noSuchLine ∧
        session.program.contains number = false := by
  rw [perform_jump] at ended
  cases read : Operands.after Operands.target source with
  | error cause =>
    simp only [read] at ended
    cases ended
    exact .inl rfl
  | ok number =>
    simp only [read] at ended
    exact .inr ⟨number, rfl, jump_error_cases ended⟩

/-- A branch that can be split fails because its operands have no values, or in jumping
    after its relation holds. -/
theorem perform_branch_error_cases {source : String} {branch : Branch} {session after : Session} {stop : Stop}
    (parted : Branch.ofTokens? (Operands.operandTokens source) = some branch)
    (ended : perform .branch source session = .error stop after) :
    (∃ vars, branch.values session.vars = .error stop vars) ∨
      ∃ left right vars, branch.values session.vars = .ok (left, right) vars ∧ branch.relation.holds left right = true ∧
        (Decimal.readLiteral branch.target.text = .error stop ∨
          ∃ number, Decimal.readLiteral branch.target.text = .ok number ∧ stop = .fault .noSuchLine ∧
            session.program.contains number = false) := by
  rw [perform_branch, parted] at ended
  dsimp only at ended
  cases values : branch.values session.vars with
  | error cause vars =>
    simp only [values] at ended
    cases ended
    exact .inl ⟨vars, rfl⟩
  | ok operands vars =>
    obtain ⟨left, right⟩ := operands
    simp only [values] at ended
    by_cases relates : branch.relation.holds left right = true
    · refine .inr ⟨left, right, vars, rfl, relates, ?_⟩
      simp only [if_pos relates] at ended
      cases read : Decimal.readLiteral branch.target.text with
      | error cause =>
        simp only [read] at ended
        cases ended
        exact .inl rfl
      | ok number =>
        simp only [read] at ended
        obtain ⟨missed, absent⟩ := jump_error_cases ended
        exact .inr ⟨number, rfl, missed, absent⟩
    · simp only [if_neg relates] at ended
      cases ended

end Session

end LineBasic
