import Mathlib
import LineBasic.Proofs.Expr.Frame
import LineBasic.Proofs.Session.Atomic
import LineBasic.Proofs.Session.Running

/-!
What a run leaves alone. What the check of a line keeps out decides which variables its
statement can change (`Statement.MayAssign`): the name after `LET` or `INPUT`, and the names
directly before `=` after `PRINT`. All variables that a session comes by while such a
statement is executed frame those that it had before (`Passes.framed`), and so do all that
a run comes by, however it ends (`Reachable.run_framed`).
-/
namespace LineBasic

/-- The statement of the text can give the variable a value: its name comes directly after
    `LET` or `INPUT`, or somewhere after `PRINT` and directly before `=`. -/
inductive Statement.MayAssign (source name : String) : Prop
  | target {keyword : Keyword} {later : List Token} (gives : keyword = .assign ∨ keyword = .input)
      (listed : tokenize source = .ok (⟨.word, keyword.word⟩ :: ⟨.word, name⟩ :: later))
  | printed {operands : List Token} (listed : tokenize source = .ok (⟨.word, Keyword.print.word⟩ :: operands))
      (assigned : [⟨.word, name⟩, ⟨.operator, "="⟩] <:+: operands)

namespace Session

/-- Variables that a session comes by while a statement is executed: those before it, those
    in the evaluation of its operands, and those after it, whether or not it failed. -/
inductive Passes (session : Session) : Statement → Variables → Prop
  | before (statement : Statement) : Passes session statement session.vars
  | assigning {source name : String} {expression : Expr} {vars : Variables}
      (read : Operands.after Operands.assignment source = .ok (name, expression))
      (within : expression.Passes session.vars vars) : Passes session ⟨.known .assign, source⟩ vars
  | printing {source : String} {expression : Expr} {vars : Variables}
      (read : Operands.after Expr.readAll source = .ok expression)
      (within : expression.Passes session.vars vars) : Passes session ⟨.known .print, source⟩ vars
  | left {source : String} {branch : Branch} {left : Expr} {vars : Variables}
      (parted : Branch.ofTokens? (Operands.operandTokens source) = some branch)
      (read : Expr.ofTokens branch.left = .ok left)
      (within : left.Passes session.vars vars) : Passes session ⟨.known .branch, source⟩ vars
  | right {source : String} {branch : Branch} {left right : Expr} {value : Int} {middle vars : Variables}
      (parted : Branch.ofTokens? (Operands.operandTokens source) = some branch)
      (readLeft : Expr.ofTokens branch.left = .ok left) (done : left.eval session.vars = .ok value middle)
      (read : Expr.ofTokens branch.right = .ok right)
      (within : right.Passes middle vars) : Passes session ⟨.known .branch, source⟩ vars
  | after (statement : Statement) : Passes session statement ((execute statement).reached session).vars

/-- Variables that a session comes by in a run: those between its turns, those within a
    turn, and those after it, however it ended. -/
inductive RunPasses (session : Session) : Variables → Prop
  | between {visited : Session} (turns : Turns session.started visited) : RunPasses session visited.vars
  | within {visited : Session} {number : Int} {statement : Statement} {vars : Variables}
      (turns : Turns session.started visited) (onLine : visited.OnLine number statement)
      (passes : visited.Passes statement vars) : RunPasses session vars
  | after : RunPasses session (run.reached session).vars

/-! ### Actions -/

theorem leaves_vars_editProgram (change : Program → Program) : Step.Leaves Session.vars (editProgram change) :=
  Step.leaves_modify fun _ => rfl

theorem leaves_vars_jump (number : Int) : Step.Leaves Session.vars (onProgram (Program.jump number)) := by
  refine Step.leaves_onPart ?_ _
  exact fun _ _ => rfl

section
variable {allowed : String → Prop} {vars : Variables}

theorem keeps_framed_eval {expression : Expr} (permitted : ∀ name, expression.Assigns name → allowed name) :
    Step.Keeps (fun session => vars.Framed allowed session.vars) (fun _ => True) (onVariables expression.eval) := by
  have evaluates : Step.Keeps (vars.Framed allowed) (fun _ => True) expression.eval := by
    intro before framed
    have after := framed.trans ((Expr.passes_reached expression before).framed.mono permitted)
    cases done : expression.eval before with
    | ok value reached => exact ⟨trivial, Step.reached_eq_of_ok done ▸ after⟩
    | error stop reached => exact Step.reached_eq_of_error done ▸ after
  exact Step.keeps_onPart evaluates (fun _ framed => framed) fun _ _ _ framed => framed

theorem keeps_framed_assign {name : String} (permitted : allowed name) (value : Int) :
    Step.Keeps (fun session => vars.Framed allowed session.vars) (fun _ => True)
      (onVariables (Variables.assign name value)) := by
  have assigns : Step.Keeps (vars.Framed allowed) (fun _ => True) (Variables.assign name value) :=
    fun before framed => ⟨trivial, framed.trans (Variables.framed_set permitted before value)⟩
  exact Step.keeps_onPart assigns (fun _ framed => framed) fun _ _ _ framed => framed

end

/-- What is kept of the variables when a statement is performed is kept when it is
    executed. -/
theorem keeps_vars_execute (holds : Variables → Prop) {keyword : Keyword} {source : String}
    (performs : Step.Keeps (fun session => holds session.vars) (fun _ => True) (perform keyword source)) :
    Step.Keeps (fun session => holds session.vars) (fun _ => True) (execute ⟨.known keyword, source⟩) := by
  have counts : Step.Leaves Session.vars countDown := leaves_countDown.comp fun content => content.1.2
  have notes : ∀ text, Step.Leaves Session.vars (note .debug .statements text) := fun text =>
    (leaves_note .debug .statements text).comp fun content => content.1.2
  refine (counts.keeps holds).bind fun _ _ => Step.keeps_get.bind fun session _ => ?_
  exact ((notes _).keeps holds).bind fun _ _ => performs

/-! ### Checked statements -/

section
variable {source : String} {keyword : Keyword} (starts : Statement.keyword? source = .ok (some keyword))
  (checked : Form.check source = .ok ())

include starts checked

/-- What a checked `PRINT` assigns stands directly before `=`. -/
theorem mayAssign_of_print (prints : keyword = .print) {expression : Expr}
    (read : Operands.after Expr.readAll source = .ok expression) {name : String} (assigns : expression.Assigns name) :
    Statement.MayAssign source name := by
  subst prints
  have plain := (Form.admitsPrinting_iff starts).1 ((Form.check_iff_admits starts).1 checked)
  have derived := (Operands.after_readAll_iff source expression).1 read
  refine .printed (Statement.tokenize_of_keyword? starts) (derived.before_sign (fun token member => ?_) assigns)
  exact Form.isSign_eq_false_of_isPlain (plain token member)

/-- Only `LET`, `PRINT` and `INPUT` change variables. -/
theorem leaves_vars_perform (still : keyword ∈ [.remark, .stop, .jump, .branch]) :
    Step.Leaves Session.vars (perform keyword source) := by
  cases keyword with
  | assign | print | input => simp at still
  | remark => exact leaves_vars_editProgram _
  | stop => exact leaves_vars_editProgram _
  | jump => exact (Step.leaves_ofExcept _).bind fun number => leaves_vars_jump number
  | branch =>
    have admitted := (Form.check_iff_admits starts).1 checked
    unfold perform
    dsimp only
    rw [Operands.after_remaining, Step.ofExcept_ok_bind]
    cases parted : Branch.ofTokens? (Operands.operandTokens source) with
    | none => exact Step.leaves_fail _
    | some branch =>
      have pure := pure_of_admitsCondition admitted parted
      refine (leaves_evaluate Session.vars fun expression => (pure expression).1).bind fun left => ?_
      refine (leaves_evaluate Session.vars fun expression => (pure expression).2).bind fun right => ?_
      split_ifs with relates
      · exact (Step.leaves_ofExcept _).bind fun number => leaves_vars_jump number
      · exact leaves_vars_editProgram _

theorem keeps_framed_perform (vars : Variables) :
    Step.Keeps (fun session => vars.Framed (Statement.MayAssign source) session.vars) (fun _ => True)
      (perform keyword source) := by
  have advances : Step.Keeps (fun session => vars.Framed (Statement.MayAssign source) session.vars) (fun _ => True)
      advance := (leaves_vars_editProgram Program.advance).keeps _
  cases keyword with
  | remark | stop | jump | branch => exact (leaves_vars_perform starts checked (by decide)).keeps _
  | assign =>
    have admitted := (Form.check_iff_admits starts).1 checked
    refine (Step.keeps_ofExcept _).bind fun answer read => ?_
    obtain ⟨pure, later, listed⟩ := pure_of_admitsAssignment admitted read
    have target : Statement.MayAssign source answer.1 :=
      .target (.inl rfl) (listed ▸ Statement.tokenize_of_keyword? starts)
    refine ((leaves_onVariables Session.vars pure.leaves_eval).keeps _).bind fun value _ => ?_
    exact (keeps_framed_assign target value).bind fun _ _ => advances
  | print =>
    have evaluates : Step.Keeps (fun session => vars.Framed (Statement.MayAssign source) session.vars) (fun _ => True)
        (evaluate (Operands.after Expr.readAll source)) := by
      refine (Step.keeps_ofExcept _).bind fun expression read => ?_
      exact keeps_framed_eval fun name assigns => mayAssign_of_print starts checked rfl read assigns
    refine evaluates.bind fun value _ => ?_
    exact ((leaves_onConsole (fun _ _ => rfl) _).keeps _).bind fun _ _ => advances
  | input =>
    refine (Step.keeps_ofExcept _).bind fun name read => ?_
    obtain ⟨⟨kind, _⟩, listed, named, rfl⟩ := (Operands.after_onlyVariable_iff _ _).1 read
    obtain ⟨word, _⟩ := Bool.and_eq_true_iff.1 named
    obtain rfl : kind = .word := beq_iff_eq.1 word
    have target : Statement.MayAssign source _ := .target (.inr rfl) (listed ▸ Statement.tokenize_of_keyword? starts)
    refine Step.keeps_get.bind fun session _ => ?_
    refine ((leaves_askInteger (fun _ _ _ => rfl) _).keeps _).bind fun value _ => ?_
    exact (keeps_framed_assign target value).bind fun _ _ => advances

/-- A checked `REM`, `END`, `GOTO` or `IF` comes by no other variables. -/
theorem Passes.eq_of_still {session : Session} {vars : Variables}
    (passes : session.Passes ⟨.known keyword, source⟩ vars) (still : keyword ∈ [.remark, .stop, .jump, .branch]) :
    vars = session.vars := by
  have admitted := (Form.check_iff_admits starts).1 checked
  cases passes with
  | before => rfl
  | assigning | printing => simp at still
  | left parted read within => exact ((pure_of_admitsCondition admitted parted _).1 read).eq_of_passes within
  | right parted readLeft done read within =>
    have same := ((pure_of_admitsCondition admitted parted _).1 readLeft).eq_of_eval done
    exact (((pure_of_admitsCondition admitted parted _).2 read).eq_of_passes within).trans same
  | after =>
    have performs := leaves_vars_perform starts checked still session.vars
    exact (keeps_vars_execute (fun vars => vars = session.vars) performs).reached rfl

/-- All that a checked statement comes by frames what it starts with. -/
theorem Passes.framed {session : Session} {vars : Variables} (passes : session.Passes ⟨.known keyword, source⟩ vars) :
    session.vars.Framed (Statement.MayAssign source) vars := by
  by_cases still : keyword ∈ [.remark, .stop, .jump, .branch]
  · rw [passes.eq_of_still starts checked still]
    exact .refl _ _
  cases passes with
  | before => exact .refl _ _
  | assigning read within =>
    have admitted := (Form.check_iff_admits starts).1 checked
    rw [(pure_of_admitsAssignment admitted read).1.eq_of_passes within]
    exact .refl _ _
  | printing read within => exact within.framed.mono fun name => mayAssign_of_print starts checked rfl read
  | left | right => exact absurd (by decide) still
  | after =>
    have performs := keeps_framed_perform starts checked session.vars
    exact (keeps_vars_execute (session.vars.Framed (Statement.MayAssign source)) performs).reached (.refl _ _)

/-- A checked `LET` changes at most its target. -/
theorem Passes.framed_target {session : Session} {vars : Variables}
    (passes : session.Passes ⟨.known keyword, source⟩ vars) (assigns : keyword = .assign) :
    ∃ target later, tokenize source = .ok (⟨.word, Keyword.assign.word⟩ :: ⟨.word, target⟩ :: later) ∧
      session.vars.Framed (fun name => name = target) vars := by
  subst assigns
  obtain ⟨target, sign, later, listed, named, _⟩ :=
    Form.admitsAssignment_iff.1 ((Form.check_iff_admits starts).1 checked)
  obtain ⟨kind, name⟩ := target
  obtain ⟨word, _⟩ := Bool.and_eq_true_iff.1 named
  obtain rfl : kind = .word := beq_iff_eq.1 word
  have whole := Statement.tokenize_of_keyword? starts
  rw [listed] at whole
  refine ⟨name, sign :: later, whole, (passes.framed starts checked).mono fun other assigns => ?_⟩
  cases assigns with
  | target _ listed' =>
    rw [whole, Except.ok.injEq, List.cons.injEq, List.cons.injEq] at listed'
    cases listed'.2.1
    rfl
  | printed listed' => simp [whole, Keyword.word] at listed'

end

/-! ### Runs -/

/-- Some stored line can give the variable a value. -/
def MayAssign (session : Session) (name : String) : Prop :=
  ∃ line ∈ session.program.lines, Statement.MayAssign line.2.source name

section
variable {session visited : Session} {vars : Variables}

/-- What a statement of a proper program comes by frames what it starts with. -/
theorem Passes.framed_of_mem (proper : session.program.Proper) {line : Int × Statement}
    (member : line ∈ session.program.lines) (passes : visited.Passes line.2 vars) :
    visited.vars.Framed session.MayAssign vars := by
  obtain ⟨checked, keyword, starts, kind⟩ := proper.checked line member
  obtain ⟨number, _, source⟩ := line
  obtain rfl : _ = StatementKind.known keyword := kind
  exact (passes.framed starts checked).mono fun name assigns => ⟨_, member, assigns⟩

/-- The line of a turn is a line of the program that is run. -/
theorem OnLine.mem_lines {number : Int} {statement : Statement} (onLine : visited.OnLine number statement)
    (turns : Turns session.started visited) : (number, statement) ∈ session.program.lines := by
  rw [← ((onTrack_started session).of_turns turns).lines_eq]
  exact Program.mem_of_get? onLine.stored

/-- One turn after the other, the variables frame those that the run starts with. -/
theorem framed_of_turns (proper : session.program.Proper) (turns : Turns session.started visited) :
    session.vars.Framed session.MayAssign visited.vars := by
  induction turns with
  | refl => exact .refl _ _
  | @tail middle next turns turn ih =>
    obtain ⟨number, statement, onLine, done⟩ := turn
    have passes : middle.Passes statement next.vars := Step.reached_eq_of_ok done ▸ .after statement
    exact ih.trans (passes.framed_of_mem proper (onLine.mem_lines turns))

/-- However a run ends, it leaves variables that frame those that it starts with. -/
theorem framed_run (proper : session.program.Proper) :
    session.vars.Framed session.MayAssign (run.reached session).vars := by
  obtain ⟨last, result, turns, ends, ran⟩ := run_ends session
  have framed := framed_of_turns proper turns
  cases ends with
  | finished =>
    rw [Step.reached_eq_of_ok ran]
    exact framed
  | @failed number statement _ after onLine fails =>
    have passes : last.Passes statement after.vars := Step.reached_eq_of_error fails ▸ .after statement
    rw [Step.reached_eq_of_error ran]
    exact framed.trans (passes.framed_of_mem proper (onLine.mem_lines turns))

theorem RunPasses.framed (proper : session.program.Proper) (passes : session.RunPasses vars) :
    session.vars.Framed session.MayAssign vars := by
  cases passes with
  | between turns => exact framed_of_turns proper turns
  | within turns onLine passes =>
    exact (framed_of_turns proper turns).trans (passes.framed_of_mem proper (onLine.mem_lines turns))
  | after => exact framed_run proper

/-- In a run of a program that comes about, from whatever variables and replies, no
    variable is ever undefined again, and only those change that a stored line can give a
    value. Wherever it is executed, a stored `REM`, `END`, `GOTO` or `IF` changes no variable,
    and a stored `LET` changes its target only. -/
theorem Reachable.run_framed (reachable : session.Reachable) {start : Session}
    (same : start.program = session.program) :
    (∀ vars, start.RunPasses vars → start.vars.Framed session.MayAssign vars) ∧
      ∀ line ∈ session.program.lines, ∀ (visited : Session) (vars : Variables), visited.Passes line.2 vars →
        (∀ keyword ∈ [Keyword.remark, .stop, .jump, .branch], line.2.kind = .known keyword → vars = visited.vars) ∧
        (line.2.kind = .known .assign →
          ∃ target later, tokenize line.2.source = .ok (⟨.word, Keyword.assign.word⟩ :: ⟨.word, target⟩ :: later) ∧
            visited.vars.Framed (fun name => name = target) vars) := by
  have proper := reachable.proper.program
  constructor
  · intro vars passes
    have framed := passes.framed (same ▸ proper)
    unfold MayAssign at framed ⊢
    rwa [same] at framed
  · rintro ⟨number, kind, source⟩ member visited vars passes
    obtain ⟨checked, keyword, starts, known⟩ := proper.checked _ member
    obtain rfl : kind = .known keyword := known
    refine ⟨fun other still kind => ?_, fun assigns => ?_⟩
    · cases kind
      exact passes.eq_of_still starts checked still
    · cases assigns
      exact passes.framed_target starts checked rfl

/-- `PRINT A = B = 7` assigns both variables, and `LET` its own: the variable that was
    there before stays. -/
theorem run_framed_chain :
    ∃ session start : Session, session.Reachable ∧ start.program = session.program ∧
      start.vars.entries = [("Z", 3)] ∧ session.program.size = 2 ∧
      (run.reached start).vars.entries = [("Z", 3), ("B", 7), ("A", 7), ("C", 10)] ∧
      start.vars.Framed session.MayAssign (run.reached start).vars := by
  have reachable := ((Reachable.fresh {} 9).call (.accept "20 LET C = A + Z")).call (.accept "10 PRINT A = B = 7")
  have size : ((Call.accept "10 PRINT A = B = 7").action.reached ((Call.accept "20 LET C = A + Z").action.reached
      { budget := 9 })).program.size = 2 := by decide +kernel
  have left : (run.reached { (Call.accept "10 PRINT A = B = 7").action.reached
      ((Call.accept "20 LET C = A + Z").action.reached { budget := 9 }) with vars := ⟨[("Z", 3)]⟩ }).vars.entries =
        [("Z", 3), ("B", 7), ("A", 7), ("C", 10)] := by decide +kernel
  generalize (Call.accept "10 PRINT A = B = 7").action.reached ((Call.accept "20 LET C = A + Z").action.reached
    { budget := 9 }) = session at reachable size left
  have start : Session.program { session with vars := ⟨[("Z", 3)]⟩ } = session.program := rfl
  exact ⟨session, _, reachable, start, rfl, size, left, (reachable.run_framed start).1 _ .after⟩

end

end Session

end LineBasic
