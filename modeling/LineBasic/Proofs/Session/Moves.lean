import Mathlib
import LineBasic.Proofs.Session.Proper
import LineBasic.Proofs.Step.Outcome

/-!
What a statement does to the program. It never changes a line: a statement that
succeeds moves the cursor as its keyword says (`Program.Moved`), and one that fails
leaves it where it was (`commits_execute`). Each statement takes one from the budget.
-/
namespace LineBasic

namespace Program

/-- Where a statement that succeeds puts the cursor: on the next line, nowhere, or
    on a line of the program. -/
inductive Moved (program : Program) : Keyword → Program → Prop
  | advances {keyword : Keyword} (going : keyword ≠ .stop ∧ keyword ≠ .jump) : Moved program keyword program.advance
  | halts : Moved program .stop program.halt
  | jumps {keyword : Keyword} {number : Int} (jumping : keyword = .jump ∨ keyword = .branch)
      (stored : program.contains number = true) : Moved program keyword { program with cursor := some number }

/-- The cursor stands nowhere or on a line of the program. -/
def CursorStored (program : Program) : Prop := ∀ number, program.cursor = some number → program.contains number = true

variable {program other : Program} {keyword : Keyword}

theorem Moved.lines_eq (moved : program.Moved keyword other) : other.lines = program.lines := by
  cases moved <;> rfl

theorem cursorStored_start (program : Program) : program.start.CursorStored := by
  intro number first
  have member : number ∈ program.numbers := List.mem_of_mem_head? first
  exact mem_numbers_iff.1 member

theorem Moved.cursorStored (moved : program.Moved keyword other) : other.CursorStored := by
  intro number cursor
  cases moved with
  | advances =>
    obtain ⟨line, _, above⟩ := Option.bind_eq_some_iff.1 cursor
    have member : number ∈ program.numbers := List.mem_of_find?_eq_some above
    exact mem_numbers_iff.1 member
  | halts => cases cursor
  | jumps _ stored =>
    cases cursor
    exact stored

/-- Without a jump, a cursor that stands nowhere stays there. -/
theorem Moved.eq_of_isImmediate (moved : program.Moved keyword other) (immediate : keyword.isImmediate = true)
    (nowhere : program.cursor = none) : other = program := by
  cases moved with
  | advances =>
    obtain ⟨lines, cursor⟩ := program
    cases nowhere
    rfl
  | halts => cases immediate
  | jumps jumping => rcases jumping with rfl | rfl <;> cases immediate

end Program

namespace Session

/-- How far a session has come: its program, and what is left of the budget. -/
def course (session : Session) : Program × Nat := (session.program, session.budget)

/-- The cursor has moved as the keyword says, and the budget is the same. -/
def CourseMoved (keyword : Keyword) (before after : Program × Nat) : Prop :=
  before.1.Moved keyword after.1 ∧ after.2 = before.2

theorem leaves_course_onVariables {α : Type} (action : Step Variables α) : Step.Leaves course (onVariables action) := by
  refine Step.leaves_onPart ?_ action
  exact fun _ _ => rfl

theorem leaves_course_evaluate [Stack] (result : Except Stop Expr) : Step.Leaves course (evaluate result) :=
  (Step.leaves_ofExcept result).bind fun expression => leaves_course_onVariables (Stack.evaluate expression)

theorem commits_advance {keyword : Keyword} (going : keyword ≠ .stop ∧ keyword ≠ .jump) :
    Step.Commits course (CourseMoved keyword) advance :=
  Step.commits_modify fun _ => ⟨.advances going, rfl⟩

theorem commits_jump {keyword : Keyword} (jumping : keyword = .jump ∨ keyword = .branch) (number : Int) :
    Step.Commits course (CourseMoved keyword) (onProgram (Program.jump number)) := by
  intro session
  unfold onProgram Step.onPart Program.jump
  by_cases stored : session.program.contains number = true
  · simp only [stored, ↓reduceIte]
    exact ⟨.jumps jumping stored, rfl⟩
  · simp only [stored]
    rfl

theorem commits_perform [Stack] [Screen] (keyword : Keyword) (source : String) :
    Step.Commits course (CourseMoved keyword) (perform keyword source) := by
  cases keyword with
  | remark => exact commits_advance (by decide)
  | stop => exact Step.commits_modify fun _ => ⟨.halts, rfl⟩
  | assign =>
    refine (Step.leaves_ofExcept _).commits_bind fun answer => ?_
    refine (leaves_course_onVariables _).commits_bind fun value => ?_
    exact (leaves_course_onVariables _).commits_bind fun _ => commits_advance (by decide)
  | print =>
    refine (leaves_course_evaluate _).commits_bind fun value => ?_
    exact (leaves_onConsole (fun _ _ => rfl) _).commits_bind fun _ => commits_advance (by decide)
  | input =>
    refine (Step.leaves_ofExcept _).commits_bind fun name => Step.leaves_get.commits_bind fun session => ?_
    refine (leaves_askInteger (fun _ _ _ => rfl) _).commits_bind fun value => ?_
    exact (leaves_course_onVariables _).commits_bind fun _ => commits_advance (by decide)
  | jump => exact (Step.leaves_ofExcept _).commits_bind fun number => commits_jump (.inl rfl) number
  | branch =>
    refine (Step.leaves_ofExcept _).commits_bind fun tokens => ?_
    cases Branch.ofTokens? tokens with
    | none => exact Step.commits_fail _
    | some branch =>
      refine (leaves_course_evaluate _).commits_bind fun left => ?_
      refine (leaves_course_evaluate _).commits_bind fun right => ?_
      by_cases relates : branch.relation.holds left right = true
      · rw [if_pos relates]
        exact (Step.leaves_ofExcept _).commits_bind fun number => commits_jump (.inr rfl) number
      · rw [if_neg relates]
        exact commits_advance (by decide)

/-! ### Executing -/

/-- Where there is some budget left, a statement of a keyword is handed on to it. -/
theorem execute_known [Stack] [Screen] (keyword : Keyword) (source : String) {session : Session} {left : Nat}
    (budget : session.budget = left + 1) :
    ∃ noted, execute ⟨.known keyword, source⟩ session =
      perform keyword source { session with budget := left, noted := noted } := by
  refine ⟨⟨.debug, .statements, "Executing [" ++ cursorText session.program ++ "] " ++ source⟩ :: session.noted, ?_⟩
  simp only [execute, Step.bind_apply, countDown, budget, Step.get_apply, note, Step.modify_apply]

theorem execute_of_exhausted [Stack] [Screen] (statement : Statement) {session : Session}
    (exhausted : session.budget = 0) :
    execute statement session = .error .stepLimit session := by
  simp only [execute, Step.bind_apply, countDown, exhausted]

/-- One statement is taken from the budget, and the cursor moves as the keyword says
    or, where the statement fails, not at all. -/
theorem commits_execute [Stack] [Screen] (keyword : Keyword) (source : String) (session : Session) :
    match execute ⟨.known keyword, source⟩ session with
    | .ok _ after => session.program.Moved keyword after.program ∧ after.budget + 1 = session.budget
    | .error _ after => after.program = session.program := by
  cases budget : session.budget with
  | zero => rw [execute_of_exhausted _ budget]
  | succ left =>
    obtain ⟨noted, handed⟩ := execute_known keyword source budget
    have moved := commits_perform keyword source { session with budget := left, noted := noted }
    rw [handed]
    cases done : perform keyword source { session with budget := left, noted := noted } with
    | ok answer after =>
      rw [done] at moved
      obtain ⟨moved, same⟩ := moved
      exact ⟨moved, congrArg (· + 1) same⟩
    | error stop after =>
      rw [done] at moved
      exact congrArg Prod.fst moved

/-- A statement of no keyword fails at once. -/
theorem execute_unknown [Stack] [Screen] (name source : String) (session : Session) :
    ∃ stop budget, (stop = .stepLimit ∨ stop = .fault .malformed) ∧
      execute ⟨.unknown name, source⟩ session = .error stop { session with budget := budget } := by
  cases budget : session.budget with
  | zero => exact ⟨.stepLimit, 0, .inl rfl, by rw [execute_of_exhausted _ budget, ← budget]⟩
  | succ left =>
    refine ⟨.fault .malformed, left, .inr rfl, ?_⟩
    simp only [execute, Step.bind_apply, countDown, budget, Step.fail_apply]

/-- A statement that succeeds is of a keyword. -/
theorem execute_ok_cases [Stack] [Screen] {statement : Statement} {session after : Session}
    (done : execute statement session = .ok () after) :
    ∃ keyword, statement.kind = .known keyword ∧ session.program.Moved keyword after.program ∧
      after.budget + 1 = session.budget := by
  obtain ⟨kind, source⟩ := statement
  cases kind with
  | unknown name =>
    obtain ⟨stop, budget, _, failed⟩ := execute_unknown name source session
    rw [failed] at done
    cases done
  | known keyword =>
    have moved := commits_execute keyword source session
    rw [done] at moved
    exact ⟨keyword, rfl, moved⟩

/-- A statement that fails leaves the program, with its cursor. -/
theorem program_of_execute_error [Stack] [Screen] {statement : Statement} {session after : Session} {stop : Stop}
    (failed : execute statement session = .error stop after) : after.program = session.program := by
  obtain ⟨kind, source⟩ := statement
  cases kind with
  | unknown name =>
    obtain ⟨stop, budget, _, refused⟩ := execute_unknown name source session
    rw [refused] at failed
    cases failed
    rfl
  | known keyword =>
    have moved := commits_execute keyword source session
    rwa [failed] at moved

end Session

end LineBasic
