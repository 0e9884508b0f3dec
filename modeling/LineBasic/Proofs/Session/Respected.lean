import Mathlib
import LineBasic.Proofs.Session.Proper
import LineBasic.Proofs.Statement.Congruence
import LineBasic.Proofs.Step.Unless

/-!
Statements in related sessions. A relation of sessions is respected if what a statement
does to the variables, on the console and in the log leads from related sessions to
related ones (`Session.Respected`). Then two texts with the same operands do the same in
related sessions, as long as the cursor is moved alike in both
(`Session.Respected.perform`, `Session.Respected.execute`).
-/
namespace LineBasic

/-- The statement names the number as its target: it is a `GOTO` or an `IF`. -/
inductive Statement.Targets : Statement → Int → Prop
  | jump {source : String} {number : Int} (read : Operands.after Operands.target source = .ok number) :
      Targets ⟨.known .jump, source⟩ number
  | branch {source : String} {branch : Branch} {number : Int}
      (parted : Branch.ofTokens? (Operands.operandTokens source) = some branch)
      (read : Decimal.readLiteral branch.target.text = .ok number) : Targets ⟨.known .branch, source⟩ number

namespace Session

/-- Actions on the variables, the console and the log keep the relation. What is noted may
    differ. That a value is asked for is looked at as a whole, since the replies that are
    left need not be the same on both sides. -/
structure Respected (lost : Session → Prop) (related : Session → Session → Prop) : Prop where
  onVariables {α : Type} (action : Step Variables α) :
    Step.AgreeUnless lost related related related (Session.onVariables action) (Session.onVariables action)
  say (text : String) : Step.AgreeUnless lost related related related (Session.say text) (Session.say text)
  note (level : LogLevel) (source : LogSource) (text text' : String) :
    Step.AgreeUnless lost related related related (Session.note level source text) (Session.note level source text')
  asks : Step.AgreeUnless lost related related related (do askInteger ((← get).console.replies.length + 1))
    (do askInteger ((← get).console.replies.length + 1))

/-! ### The same variables and console -/

section
variable {related : Session → Session → Prop}
  (kept : ∀ one other : Session, related one other →
    one.vars = other.vars ∧ one.console = other.console ∧
      ∀ vars console noted noted', related { one with vars := vars, console := console, noted := noted }
        { other with vars := vars, console := console, noted := noted' })

include kept

theorem agree_vars_of_kept {α : Type} (action : Step Variables α) :
    Step.Agree related related related (onVariables action) (onVariables action) := by
  have after := fun one other vars (same : related one other) =>
    (kept one other same).2.2 vars one.console one.noted other.noted
  refine Step.agree_onPart action (fun one other same => (kept one other same).1) ?_ ?_
  · intro one other vars same
    exact (kept one other same).2.1 ▸ after one other vars same
  · intro one other vars same
    exact (kept one other same).2.1 ▸ after one other vars same

theorem agree_console_of_kept {α : Type} (action : Step Console α) :
    Step.Agree related related related (onConsole action) (onConsole action) := by
  have after := fun one other console (same : related one other) =>
    (kept one other same).2.2 one.vars console one.noted other.noted
  refine Step.agree_onPart action (fun one other same => (kept one other same).2.1) ?_ ?_
  · intro one other console same
    exact (kept one other same).1 ▸ after one other console same
  · intro one other console same
    exact (kept one other same).1 ▸ after one other console same

theorem agree_note_of_kept (level : LogLevel) (source : LogSource) (text text' : String) :
    Step.Agree related related related (note level source text) (note level source text') := by
  refine Step.agree_modify fun one other same => ?_
  obtain ⟨vars, console, after⟩ := kept one other same
  have noted := after one.vars one.console (⟨level, source, text⟩ :: one.noted)
    (⟨level, source, text'⟩ :: other.noted)
  simpa only [vars, console] using noted

theorem agree_askInteger_of_kept (bound : Nat) :
    Step.Agree related related related (askInteger bound) (askInteger bound) := by
  induction bound with
  | zero => exact Step.agree_throw _ fun _ _ same => same
  | succ bound ih =>
    refine (agree_console_of_kept kept _).bind fun reply => ?_
    cases Decimal.readReply reply with
    | ok value => exact Step.agree_pure value fun _ _ same => same
    | error stop =>
      cases stop with
      | fault cause =>
        refine (agree_note_of_kept kept _ _ _ _).bind fun _ => ?_
        exact (agree_console_of_kept kept _).bind fun _ => ih
      | _ => exact Step.agree_throw _ fun _ _ same => same

/-- Sessions of the same variables on the same console, whatever else relates them. -/
theorem respected_of_kept : Respected (fun _ => False) related where
  onVariables action := (agree_vars_of_kept kept action).never_lost
  say text := (agree_console_of_kept kept (Console.say text)).never_lost
  note level source text text' := (agree_note_of_kept kept level source text text').never_lost
  asks := by
    refine Step.Agree.never_lost (Step.agree_get_bind fun one other same => ?_)
    rw [(kept one other same).2.1]
    exact agree_askInteger_of_kept kept _

end

/-! ### The same program -/

section
variable {related : Session → Session → Prop}
  (kept : ∀ one other : Session, related one other →
    one.program = other.program ∧ ∀ program, related { one with program := program } { other with program := program })

include kept

theorem agree_onProgram_of_kept {α : Type} (action : Step Program α) :
    Step.Agree related related related (onProgram action) (onProgram action) := by
  have after := fun one other program (same : related one other) => (kept one other same).2 program
  exact Step.agree_onPart action (fun one other same => (kept one other same).1) after after

theorem agree_editProgram_of_kept (change : Program → Program) :
    Step.Agree related related related (editProgram change) (editProgram change) := by
  refine Step.agree_modify fun one other same => ?_
  obtain ⟨program, after⟩ := kept one other same
  rw [program]
  exact after _

end

/-! ### Statements -/

namespace Respected

variable {lost : Session → Prop} {related after : Session → Session → Prop}

theorem evaluate (respected : Respected lost related) (result : Except Stop Expr) :
    Step.AgreeUnless lost related related related (Session.evaluate result) (Session.evaluate result) :=
  Step.agreeUnless_ofExcept_bind (fun _ _ same => same) fun expression _ => respected.onVariables expression.eval

/-- A statement is performed alike where moving the cursor leads from related sessions to
    sessions that are related as wanted: on to the next line, to nowhere, or to a target. -/
theorem perform (respected : Respected lost related) {keyword : Keyword} {source source' : String}
    (same : Operands.operandTokens source = Operands.operandTokens source')
    (advances : keyword ≠ .stop → Step.AgreeUnless lost related after related advance advance)
    (halts : keyword = .stop →
      Step.AgreeUnless lost related after related (editProgram Program.halt) (editProgram Program.halt))
    (jumps : ∀ number, Statement.Targets ⟨.known keyword, source⟩ number →
      Step.AgreeUnless lost related after related (onProgram (Program.jump number)) (onProgram (Program.jump number))) :
    Step.AgreeUnless lost related after related (perform keyword source) (perform keyword source') := by
  have stays : ∀ one other, related one other → related one other := fun _ _ same => same
  unfold Session.perform
  cases keyword with
  | remark => exact advances (by decide)
  | stop => exact halts rfl
  | assign =>
    dsimp only
    have going := advances (by decide)
    rw [← Operands.after_assignment_congr same]
    refine Step.agreeUnless_ofExcept_bind stays fun answer _ => ?_
    exact (respected.onVariables _).bind fun value => (respected.onVariables _).bind fun _ => going
  | print =>
    dsimp only
    have going := advances (by decide)
    rw [Stack.read_unbounded, ← Operands.after_readAll_congr same]
    exact (respected.evaluate _).bind fun value => (respected.say _).bind fun _ => going
  | input =>
    dsimp only
    have going := advances (by decide)
    rw [← Operands.after_onlyVariable_congr same]
    refine Step.agreeUnless_ofExcept_bind stays fun name _ => ?_
    have given := respected.asks.bind fun value =>
      (respected.onVariables (Variables.assign name value)).bind fun _ => going
    simpa only [bind_assoc] using given
  | jump =>
    dsimp only
    rw [← Operands.after_target_congr same]
    exact Step.agreeUnless_ofExcept_bind stays fun number read => jumps number (.jump read)
  | branch =>
    dsimp only
    have going := advances (by decide)
    rw [← Operands.after_remaining_congr same, Operands.after_remaining]
    cases parted : Branch.ofTokens? (Operands.operandTokens source) with
    | none =>
      simp only [Step.ofExcept_ok_bind, parted]
      exact (Step.agree_throw _ stays).unless (Step.keeps_throw _)
    | some branch =>
      simp only [Step.ofExcept_ok_bind, parted]
      refine (respected.evaluate _).bind fun left => (respected.evaluate _).bind fun right => ?_
      by_cases relates : branch.relation.holds left right = true
      · simp only [relates, ↓reduceIte]
        exact Step.agreeUnless_ofExcept_bind stays fun number read => jumps number (.branch parted read)
      · simp only [relates]
        exact going

/-- A statement is executed alike where also the budget is counted down alike. -/
theorem execute (respected : Respected lost related) {kind : StatementKind} {source source' : String}
    (same : Operands.operandTokens source = Operands.operandTokens source')
    (counts : Step.AgreeUnless lost related related related countDown countDown)
    (advances : Step.AgreeUnless lost related after related advance advance)
    (halts : Step.AgreeUnless lost related after related (editProgram Program.halt) (editProgram Program.halt))
    (jumps : ∀ number,
      Step.AgreeUnless lost related after related (onProgram (Program.jump number)) (onProgram (Program.jump number))) :
    Step.AgreeUnless lost related after related (execute ⟨kind, source⟩) (execute ⟨kind, source'⟩) := by
  unfold Session.execute
  refine counts.bind fun _ => ?_
  cases kind with
  | unknown name => exact (Step.agree_throw _ fun _ _ same => same).unless (Step.keeps_throw _)
  | known keyword =>
    have performs : Step.AgreeUnless lost related after related (Session.perform keyword source)
        (Session.perform keyword source') :=
      respected.perform same (fun _ => advances) (fun _ => halts) fun number _ => jumps number
    have kept : ∀ session : Session, Step.Keeps lost (fun _ => True) (do
        Session.note .debug .statements ("Executing [" ++ cursorText session.program ++ "] " ++ source)
        Session.perform keyword source) :=
      fun session => (respected.note _ _ _ "").keeps.bind fun _ _ => performs.keeps
    refine Step.agreeUnless_get_bind kept fun one other _ => ?_
    exact (respected.note _ _ _ _).bind fun _ => performs

end Respected

end Session

end LineBasic
