import Mathlib
import LineBasic.Proofs.Session.Editing
import LineBasic.Proofs.Session.Moves
import LineBasic.Proofs.Session.Perform
import LineBasic.Proofs.Session.Reachable

/-!
Runs as sequences of turns. A turn executes the statement of the line that the cursor
stands on (`Turn`), and a run makes turns until the cursor stands nowhere or a
statement fails (`continueRun_ends`). No turn changes a line or takes the cursor off
the program (`OnTrack.of_turns`), and however a run ends, the cursor stands nowhere
afterwards (`Reachable.cursor_eq_none`). That there is no such line is said only of
the target of a jump (`misses_of_execute`).
-/
namespace LineBasic.Session

/-- The session as a run starts: the cursor stands on the first line. -/
def started (session : Session) : Session :=
  { session with
    program := session.program.start
    noted := ⟨.info, .session, "RUN (" ++ Decimal.write session.program.size ++ " lines)"⟩ :: session.noted }

/-- The session with the cursor nowhere. -/
def halted (session : Session) : Session := { session with program := session.program.halt }

/-- The cursor stands on a line of the program, which holds the statement. -/
structure OnLine (session : Session) (number : Int) (statement : Statement) : Prop where
  cursor : session.program.cursor = some number
  stored : session.program.get? number = some statement

/-- One turn of a run: the statement under the cursor is executed, and does not fail. -/
def Turn (session next : Session) : Prop :=
  ∃ number statement, session.OnLine number statement ∧ execute statement session = .ok () next

/-- The turns that a run makes from a session on. -/
abbrev Turns : Session → Session → Prop := Relation.ReflTransGen Turn

/-- What the turns of a run come to: they end where the cursor stands nowhere, or
    where a statement fails. -/
inductive Ends (session : Session) : EStateM.Result Stop Session Unit → Prop
  | finished (nowhere : session.program.cursor = none) : Ends session (.ok () session)
  | failed {number : Int} {statement : Statement} {stop : Stop} {after : Session}
      (onLine : session.OnLine number statement) (fails : execute statement session = .error stop after) :
      Ends session (.error stop after)

/-- The statement jumps to a line that is not in the program: it is a `GOTO`, or a
    branch whose relation holds of the values of its operands. -/
inductive Misses (session : Session) : Statement → Prop
  | jump {source : String} {target : Int} (read : Operands.after Operands.target source = .ok target)
      (absent : session.program.contains target = false) : Misses session ⟨.known .jump, source⟩
  | branch {source : String} {branch : Branch} {left right : Int} {vars : Variables} {target : Int}
      (parted : Branch.ofTokens? (Operands.operandTokens source) = some branch)
      (values : branch.values session.vars = .ok (left, right) vars) (relates : branch.relation.holds left right = true)
      (read : Decimal.readLiteral branch.target.text = .ok target)
      (absent : session.program.contains target = false) : Misses session ⟨.known .branch, source⟩

/-! ### Turns -/

/-- The lines are the given ones, and the cursor stands nowhere or on one of them. -/
structure OnTrack (lines : List (Int × Statement)) (session : Session) : Prop where
  lines_eq : session.program.lines = lines
  cursor : session.program.CursorStored

variable {lines : List (Int × Statement)} {session next : Session}

theorem onTrack_started (session : Session) : OnTrack session.program.lines session.started :=
  ⟨rfl, Program.cursorStored_start session.program⟩

theorem OnTrack.of_turn (onTrack : OnTrack lines session) (turn : Turn session next) : OnTrack lines next := by
  obtain ⟨number, statement, _, done⟩ := turn
  obtain ⟨keyword, _, moved, _⟩ := execute_ok_cases done
  exact ⟨moved.lines_eq.trans onTrack.lines_eq, moved.cursorStored⟩

theorem OnTrack.of_turns (onTrack : OnTrack lines session) (turns : Turns session next) : OnTrack lines next := by
  induction turns with
  | refl => exact onTrack
  | tail _ turn ih => exact ih.of_turn turn

theorem OnTrack.onLine (onTrack : OnTrack lines session) :
    session.program.cursor = none ∨ ∃ number statement, session.OnLine number statement := by
  cases cursor : session.program.cursor with
  | none => exact .inl rfl
  | some number =>
    obtain ⟨statement, stored⟩ := Option.isSome_iff_exists.1 (onTrack.cursor number cursor)
    exact .inr ⟨number, statement, cursor, stored⟩

theorem continueRun_of_none [Stack] [Screen] (bound : Nat) (nowhere : session.program.cursor = none) :
    continueRun (bound + 1) session = .ok () session := by
  simp only [continueRun, Step.bind_apply, Step.get_apply, nowhere, Step.pure_apply]

/-- The statement under the cursor is found, and executed. -/
theorem continueRun_of_onLine [Stack] [Screen] (bound : Nat) {number : Int} {statement : Statement}
    (onLine : session.OnLine number statement) :
    continueRun (bound + 1) session =
      match execute statement session with
      | .ok _ after => continueRun bound after
      | .error stop after => .error stop after := by
  obtain ⟨cursor, stored⟩ := onLine
  have fetched : onProgram (Program.fetch number) session = .ok statement session := by
    simp only [onProgram, Step.onPart, Program.fetch, stored]
  simp only [continueRun, Step.bind_apply, Step.get_apply, cursor, fetched]
  cases execute statement session <;> rfl

/-- As long as fewer statements are left than are looked at, a run ends only as its
    turns do. -/
theorem continueRun_ends {bound : Nat} (enough : session.budget < bound) (onTrack : OnTrack lines session) :
    ∃ last, Turns session last ∧ Ends last (continueRun bound session) := by
  induction bound generalizing session with
  | zero => omega
  | succ bound ih =>
    rcases onTrack.onLine with nowhere | ⟨number, statement, onLine⟩
    · rw [continueRun_of_none bound nowhere]
      exact ⟨session, .refl, .finished nowhere⟩
    · rw [continueRun_of_onLine bound onLine]
      cases done : execute statement session with
      | error stop after => exact ⟨session, .refl, .failed onLine done⟩
      | ok answer after =>
        obtain ⟨keyword, _, _, counted⟩ := execute_ok_cases done
        have turn : Turn session after := ⟨number, statement, onLine, done⟩
        obtain ⟨last, turns, ends⟩ := ih (by omega) (onTrack.of_turn turn)
        exact ⟨last, .head turn turns, ends⟩

/-! ### Runs -/

/-- How a run ends, from how its turns have ended: the cursor is taken away. -/
def concluded : EStateM.Result Stop Session Unit → EStateM.Result Stop Session Unit
  | .ok _ after => .ok () { after.halted with noted := ⟨.info, .session, "RUN finished"⟩ :: after.noted }
  | .error stop after => .error stop after.halted

theorem run_apply [Stack] [Screen] (session : Session) :
    run session = concluded (continueRun (session.budget + 1) session.started) := by
  change (Step.ensuring (continueRun (session.budget + 1)) halted >>= fun _ => note .info .session "RUN finished")
    session.started = _
  rw [Step.bind_apply]
  unfold Step.ensuring
  cases continueRun (session.budget + 1) session.started with
  | ok answer after => rfl
  | error stop after => rfl

theorem run_ends (session : Session) :
    ∃ last result, Turns session.started last ∧ Ends last result ∧ run session = concluded result := by
  obtain ⟨last, turns, ends⟩ := continueRun_ends (Nat.lt_succ_self session.started.budget) (onTrack_started session)
  exact ⟨last, _, turns, ends, run_apply session⟩

/-- Only the cursor moves in a run, and in the end it stands nowhere. -/
theorem keeps_program_run {program : Program} (nowhere : program.cursor = none) :
    Step.Keeps (fun session => session.program = program) (fun _ => True) run := by
  rintro session rfl
  have halts : ∀ after : Session, after.program.lines = session.program.lines →
      after.program.halt = session.program := by
    intro after same
    show Program.mk after.program.lines none = session.program
    rw [same, ← nowhere]
  obtain ⟨last, result, turns, ends, ran⟩ := run_ends session
  have lines := ((onTrack_started session).of_turns turns).lines_eq
  rw [ran]
  cases ends with
  | finished => exact ⟨trivial, halts last lines⟩
  | @failed _ _ _ after _ fails => exact halts after (by rw [program_of_execute_error fails, lines])

/-! ### Between runs -/

/-- What leaves every program that no cursor stands in leaves no cursor. -/
theorem keeps_cursor_of_program {α : Type} {action : Action α}
    (kept : ∀ program : Program, program.cursor = none →
      Step.Keeps (fun session => session.program = program) (fun _ => True) action) :
    Step.Keeps (fun session => session.program.cursor = none) (fun _ => True) action := by
  intro session nowhere
  have after := kept session.program nowhere session rfl
  cases ended : action session with
  | ok answer reached =>
    rw [ended] at after
    exact ⟨trivial, (congrArg Program.cursor after.2).trans nowhere⟩
  | error stop reached =>
    rw [ended] at after
    exact (congrArg Program.cursor after).trans nowhere

/-- A statement that is typed at once has no cursor to move. -/
theorem keeps_program_executeAtOnce {program : Program} (nowhere : program.cursor = none) (text : String) :
    Step.Keeps (fun session => session.program = program) (fun _ => True) (executeAtOnce text) := by
  refine (Step.keeps_ofExcept _).bind fun starting _ => ?_
  cases starting with
  | none => exact Step.keeps_fail _
  | some keyword =>
    dsimp only
    by_cases immediate : keyword.isImmediate = true
    · rw [if_pos immediate]
      rintro session rfl
      have moved := commits_execute keyword text session
      cases done : execute ⟨.known keyword, text⟩ session with
      | ok answer after =>
        rw [done] at moved
        exact ⟨trivial, moved.1.eq_of_isImmediate immediate nowhere⟩
      | error stop after =>
        rw [done] at moved
        exact moved
    · rw [if_neg immediate]
      exact Step.keeps_fail _

theorem keeps_cursor_of_leaves {α : Type} {action : Action α} (leaves : Step.Leaves holdings action) :
    Step.Keeps (fun session => session.program.cursor = none) (fun _ => True) action :=
  leaves.keeps fun held => held.1.cursor = none

theorem keeps_cursor_put (number : Int) (change : Option Statement) :
    Step.Keeps (fun session => session.program.cursor = none) (fun _ => True) (put number change) := by
  intro session nowhere
  obtain ⟨noted, made⟩ := put_apply number change session
  rw [made]
  exact ⟨trivial, Program.cursor_edited_eq_none nowhere number change⟩

theorem keeps_cursor_accept (text : String) :
    Step.Keeps (fun session => session.program.cursor = none) (fun _ => True) (accept text) := by
  rcases accept_cases text with ⟨number, change, _, same⟩ | same | ⟨stop, same⟩ | ⟨other, same⟩
  · exact same ▸ keeps_cursor_put number change
  · exact same ▸ Step.keeps_pure trivial
  · exact same ▸ Step.keeps_throw stop
  · exact same ▸ keeps_cursor_of_program fun program nowhere => keeps_program_executeAtOnce nowhere other

theorem keeps_cursor_call (call : Call) :
    Step.Keeps (fun session => session.program.cursor = none) (fun _ => True) call.action := by
  refine keeps_call (fun _ => keeps_cursor_of_leaves) ?_ ?_ keeps_cursor_accept call
  · exact keeps_cursor_of_program fun program nowhere => keeps_program_run nowhere
  · refine Step.Keeps.bind (Step.keeps_modify fun session _ => rfl) fun _ _ => ?_
    exact keeps_cursor_of_leaves ((leaves_note _ _ _).comp Prod.fst)

/-- Between calls the cursor stands nowhere. -/
theorem Reachable.cursor_eq_none (reachable : session.Reachable) : session.program.cursor = none := by
  induction reachable with
  | fresh console budget => rfl
  | call _ call ih => exact (keeps_cursor_call call).reached ih
  | meanwhile _ console budget ih => exact ih

/-! ### Lines that are missed -/

/-- A branch fails for want of a line only where its relation holds. -/
theorem misses_of_perform_branch {source : String} {after : Session}
    (failed : perform .branch source session = .error (.fault .noSuchLine) after) :
    Misses session ⟨.known .branch, source⟩ := by
  cases parted : Branch.ofTokens? (Operands.operandTokens source) with
  | none =>
    rw [perform_branch, parted] at failed
    cases failed
  | some branch =>
    rcases perform_branch_error_cases parted failed with ⟨vars, unvalued⟩ | ⟨left, right, vars, values, relates, missed⟩
    · rcases Branch.values_error_cases unvalued with unread | ⟨_, _, _, _, _, unread⟩ | other
      · cases Expr.ofReading_of_ofTokens unread
      · cases Expr.ofReading_of_ofTokens unread
      · cases other
    · rcases missed with unread | ⟨target, read, _, absent⟩
      · cases Decimal.readLiteral_error unread
      · exact .branch parted values relates read absent

/-- A statement fails for want of a line only by jumping to it. -/
theorem misses_of_perform {keyword : Keyword} {source : String} {after : Session}
    (failed : perform keyword source session = .error (.fault .noSuchLine) after) :
    Misses session ⟨.known keyword, source⟩ := by
  cases keyword with
  | remark => exact absurd failed (@succeeds_advance _ _ _)
  | stop => exact absurd failed (@Step.succeeds_modify _ _ _ _ _)
  | assign =>
    rcases perform_assign_error_cases failed with unread | other
    · cases Operands.ofReading_of_after Operands.stopsOnly_assignment unread
    · cases other
  | print =>
    rcases perform_print_error_cases failed with unread | other
    · cases Operands.ofReading_of_after Expr.stopsOnly_readAll unread
    · cases other
  | input =>
    rcases perform_input_error_cases failed with unread | other
    · cases Operands.ofReading_of_after Operands.stopsOnly_onlyVariable unread
    · cases stopsOnly_askInteger _ other
  | jump =>
    rcases perform_jump_error_cases failed with unread | ⟨target, read, _, absent⟩
    · cases Operands.ofReading_of_after Operands.stopsOnly_target unread
    · exact .jump read absent
  | branch => exact misses_of_perform_branch failed

/-- Neither the budget nor the log matters to what is missed. -/
theorem Misses.of_same {other : Session} {statement : Statement} (misses : Misses other statement)
    (program : other.program = session.program) (vars : other.vars = session.vars) : Misses session statement := by
  cases misses with
  | jump read absent => exact .jump read (program ▸ absent)
  | branch parted values relates read absent => exact .branch parted (vars ▸ values) relates read (program ▸ absent)

theorem misses_of_execute {statement : Statement} {after : Session}
    (failed : execute statement session = .error (.fault .noSuchLine) after) : Misses session statement := by
  obtain ⟨kind, source⟩ := statement
  cases kind with
  | unknown name =>
    obtain ⟨stop, budget, cause, refused⟩ := execute_unknown name source session
    rw [refused] at failed
    cases failed
    rcases cause with other | other <;> cases other
  | known keyword =>
    cases budget : session.budget with
    | zero =>
      rw [execute_of_exhausted _ budget] at failed
      cases failed
    | succ left =>
      obtain ⟨noted, handed⟩ := execute_known keyword source budget
      rw [handed] at failed
      exact (misses_of_perform failed).of_same rfl rfl

/-- Between calls the cursor stands nowhere, and a run is made of turns. Before each
    turn the cursor stands on a line of the program, and the lines stay as they are.
    Only a jump can fail for want of a line. -/
theorem Reachable.run_disciplined (reachable : session.Reachable) :
    session.program.cursor = none ∧ (run.reached session).program = session.program ∧
      (∀ visited, Turns session.started visited → visited.program.lines = session.program.lines ∧
        (visited.program.cursor = none ∨ ∃ number statement, visited.OnLine number statement)) ∧
      (∃ last result, Turns session.started last ∧ Ends last result ∧ run session = concluded result) ∧
      ∀ after, run session = .error (.fault .noSuchLine) after →
        ∃ last number statement, Turns session.started last ∧ last.OnLine number statement ∧ Misses last statement := by
  have nowhere := reachable.cursor_eq_none
  refine ⟨nowhere, (keeps_program_run nowhere).reached rfl, ?_, run_ends session, ?_⟩
  · intro visited turns
    have onTrack := (onTrack_started session).of_turns turns
    exact ⟨onTrack.lines_eq, onTrack.onLine⟩
  · intro after failed
    obtain ⟨last, result, turns, ends, ran⟩ := run_ends session
    rw [ran] at failed
    cases ends with
    | finished => cases failed
    | @failed number statement stop reached onLine fails =>
      obtain rfl : stop = .fault .noSuchLine := (EStateM.Result.error.inj failed).1
      exact ⟨last, number, statement, turns, onLine, misses_of_execute fails⟩

/-- `20 GOTO 30` is the last line: the run fails there, and the cursor stands nowhere
    again. -/
theorem run_disciplined_missing_line :
    ∃ session after : Session, session.Reachable ∧ session.program.size = 2 ∧
      run session = .error (.fault .noSuchLine) after ∧ after.program = session.program ∧
      ∃ last number statement, Turns session.started last ∧ last.OnLine number statement ∧ Misses last statement := by
  have reachable := ((Reachable.fresh {} 9).call (.accept "10 LET A = 1")).call (.accept "20 GOTO 30")
  have size : ((Call.accept "20 GOTO 30").action.reached ((Call.accept "10 LET A = 1").action.reached
      { budget := 9 })).program.size = 2 := by decide +kernel
  have failed := Step.eq_error_of_outcome (show (run.outcome ((Call.accept "20 GOTO 30").action.reached
    ((Call.accept "10 LET A = 1").action.reached { budget := 9 }))).1 = .error (.fault .noSuchLine) by decide +kernel)
  obtain ⟨_, same, _, _, missed⟩ := reachable.run_disciplined
  exact ⟨_, _, reachable, size, failed, same, missed _ failed⟩

end LineBasic.Session
