import Mathlib
import LineBasic.Proofs.Session.Respected
import LineBasic.Proofs.Session.Running

/-!
Likenesses of sessions. Related sessions may differ in their consoles and logs, but they
hold the same program and variables and have the same budget left. If besides nothing that
is written tells them apart, and no value that is asked for does, then they do the same with
every line (`Likeness.process`).
-/
namespace LineBasic.Session

/-- Done in both of two related sessions, the action leaves them related, unless the first
    one gets lost, as its console shows. -/
abbrev DoneAlike {α : Type} (lost : Console → Prop) (related : Session → Session → Prop) (action : Action α) : Prop :=
  Step.AgreeUnless (fun session => lost session.console) related related related action action

/-- Related sessions have the same program, variables and budget, and stay related where
    these change alike in both, and where something is noted in either. What is said and
    what is asked for leaves them related. -/
structure Likeness (lost : Console → Prop) (related : Session → Session → Prop) : Prop where
  program {one other : Session} (same : related one other) : one.program = other.program
  vars {one other : Session} (same : related one other) : one.vars = other.vars
  budget {one other : Session} (same : related one other) : one.budget = other.budget
  changed {one other : Session} (same : related one other) (program : Program) (vars : Variables) (budget : Nat)
    (noted noted' : List LogEntry) :
    related { one with program := program, vars := vars, budget := budget, noted := noted }
      { other with program := program, vars := vars, budget := budget, noted := noted' }
  say (text : String) : DoneAlike lost related (Session.say text)
  asks : DoneAlike lost related (do askInteger ((← get).console.replies.length + 1))

theorem leaves_console_note (level : LogLevel) (source : LogSource) (text : String) :
    Step.Leaves Session.console (note level source text) :=
  Step.leaves_modify fun _ => rfl

variable {lost : Console → Prop} {related : Session → Session → Prop} {one other : Session}

/-- What neither looks at a console nor writes on one is done alike. -/
theorem doneAlike_of_agree {α : Type} {action : Action α} (leaves : Step.Leaves Session.console action)
    (agree : Step.Agree related related related action action) : DoneAlike lost related action :=
  agree.unless (leaves.keeps lost)

theorem doneAlike_pure {α : Type} (answer : α) : DoneAlike lost related (pure answer : Action α) :=
  doneAlike_of_agree (Step.leaves_pure answer) (Step.agree_pure answer fun _ _ same => same)

theorem doneAlike_throw {α : Type} (stop : Stop) : DoneAlike lost related (throw stop : Action α) :=
  doneAlike_of_agree (Step.leaves_throw stop) (Step.agree_throw stop fun _ _ same => same)

namespace Likeness

variable (alike : Likeness lost related)

include alike

/-! ### Parts of a session -/

theorem changed_program (same : related one other) (program : Program) :
    related { one with program := program } { other with program := program } := by
  have after := alike.changed same program one.vars one.budget one.noted other.noted
  simpa only [alike.vars same, alike.budget same] using after

theorem changed_vars (same : related one other) (vars : Variables) :
    related { one with vars := vars } { other with vars := vars } := by
  have after := alike.changed same one.program vars one.budget one.noted other.noted
  simpa only [alike.program same, alike.budget same] using after

theorem changed_noted (same : related one other) (noted noted' : List LogEntry) :
    related { one with noted := noted } { other with noted := noted' } := by
  have after := alike.changed same one.program one.vars one.budget noted noted'
  simpa only [alike.program same, alike.vars same, alike.budget same] using after

theorem note (level : LogLevel) (source : LogSource) (text text' : String) :
    Step.AgreeUnless (fun session => lost session.console) related related related (Session.note level source text)
      (Session.note level source text') := by
  refine Step.Agree.unless (Step.agree_modify fun one other same => ?_) ((leaves_console_note _ _ _).keeps lost)
  exact alike.changed_noted same _ _

theorem onVariables {α : Type} (action : Step Variables α) : DoneAlike lost related (Session.onVariables action) := by
  refine doneAlike_of_agree (Step.leaves_onPart ?_ _) ?_
  · exact fun _ _ => rfl
  · have after := fun (one other : Session) vars (same : related one other) => alike.changed_vars same vars
    exact Step.agree_onPart action (fun _ _ same => alike.vars same) after after

theorem kept_program (one other : Session) (same : related one other) :
    one.program = other.program ∧
      ∀ program, related { one with program := program } { other with program := program } :=
  ⟨alike.program same, alike.changed_program same⟩

theorem editProgram (change : Program → Program) : DoneAlike lost related (Session.editProgram change) :=
  doneAlike_of_agree (Step.leaves_modify fun _ => rfl) (agree_editProgram_of_kept alike.kept_program change)

theorem onProgram {α : Type} (action : Step Program α) : DoneAlike lost related (Session.onProgram action) := by
  refine doneAlike_of_agree (Step.leaves_onPart ?_ _) (agree_onProgram_of_kept alike.kept_program action)
  exact fun _ _ => rfl

theorem countDown : DoneAlike lost related Session.countDown := by
  refine doneAlike_of_agree (leaves_countDown.comp Prod.snd) fun one other same => ?_
  unfold Session.countDown
  rw [← alike.budget same]
  cases one.budget with
  | zero => exact .inr ⟨_, one, other, rfl, rfl, same⟩
  | succ left =>
    have after := alike.changed same one.program one.vars left one.noted other.noted
    refine .inl ⟨(), _, _, rfl, rfl, ?_⟩
    simpa only [alike.program same, alike.vars same] using after

/-! ### Statements -/

theorem respected : Respected (fun session => lost session.console) related where
  onVariables := alike.onVariables
  say := alike.say
  note := alike.note
  asks := alike.asks

/-- Statements with the same operands are executed alike. -/
theorem execute {kind : StatementKind} {source source' : String}
    (same : Operands.operandTokens source = Operands.operandTokens source') :
    Step.AgreeUnless (fun session => lost session.console) related related related (Session.execute ⟨kind, source⟩)
      (Session.execute ⟨kind, source'⟩) :=
  alike.respected.execute same alike.countDown (alike.editProgram Program.advance) (alike.editProgram Program.halt)
    fun number => alike.onProgram (Program.jump number)

/-- What depends on the program and the budget goes on alike. -/
theorem get_bind {α : Type} {next : Session → Action α}
    (each : ∀ one other : Session, one.program = other.program → one.budget = other.budget →
      Step.AgreeUnless (fun session => lost session.console) related related related (next one) (next other)) :
    DoneAlike lost related (get >>= next) :=
  Step.agreeUnless_get_bind (fun session => (each session session rfl rfl).keeps) fun one other same =>
    each one other (alike.program same) (alike.budget same)

/-! ### Runs and commands -/

theorem continueRun (bound : Nat) : DoneAlike lost related (Session.continueRun bound) := by
  induction bound with
  | zero => exact doneAlike_throw _
  | succ bound ih =>
    refine alike.get_bind fun one other program _ => ?_
    rw [program]
    cases other.program.cursor with
    | none => exact doneAlike_pure ()
    | some number =>
      refine (alike.onProgram (Program.fetch number)).bind fun statement => ?_
      exact (alike.execute rfl).bind fun _ => ih

theorem run : DoneAlike lost related Session.run := by
  refine alike.get_bind fun one other program _ => ?_
  refine (alike.note _ _ _ _).bind fun _ => (alike.editProgram Program.start).bind fun _ => ?_
  have going : DoneAlike lost related (do Session.continueRun ((← get).budget + 1)) := by
    refine alike.get_bind fun one other _ budget => ?_
    rw [budget]
    exact alike.continueRun _
  have halts : ∀ one other : Session, related one other → related one.halted other.halted := by
    intro one other same
    unfold halted
    rw [alike.program same]
    exact alike.changed_program same _
  have shown : ∀ session : Session, lost session.halted.console ↔ lost session.console := fun _ => Iff.rfl
  exact (going.ensuring shown halts halts).bind fun _ => alike.note _ _ _ _

theorem list : DoneAlike lost related Session.list := by
  refine alike.get_bind fun one other program _ => ?_
  rw [program]
  exact Step.agreeUnless_forM alike.say

theorem clear : DoneAlike lost related Session.clear := by
  have empties : DoneAlike lost related (modify fun session : Session => { session with program := {}, vars := {} }) := by
    refine doneAlike_of_agree (Step.leaves_modify fun _ => rfl) (Step.agree_modify fun one other same => ?_)
    exact alike.changed_vars (alike.changed_program same {}) {}
  exact empties.bind fun _ => alike.note _ _ _ _

theorem command (command : Command) : DoneAlike lost related (Shell.perform command) := by
  cases command with
  | run => exact alike.run
  | list => exact alike.list
  | clear => exact alike.clear
  | help => exact alike.say _
  | quit => exact doneAlike_pure ()

/-! ### Lines -/

theorem put (number : Int) (change : Option Statement) : DoneAlike lost related (Session.put number change) := by
  refine Step.Agree.unless (fun one other same => ?_) fun session astray => ?_
  · obtain ⟨noted, done⟩ := put_apply number change one
    obtain ⟨noted', done'⟩ := put_apply number change other
    refine .inl ⟨(), _, _, done, done', ?_⟩
    rw [alike.program same]
    exact alike.changed_noted (alike.changed_program same _) noted noted'
  · obtain ⟨noted, done⟩ := put_apply number change session
    rw [done]
    exact ⟨trivial, astray⟩

theorem executeAtOnce (text : String) : DoneAlike lost related (Session.executeAtOnce text) := by
  refine Step.agreeUnless_ofExcept_bind (fun _ _ same => same) fun starting _ => ?_
  cases starting with
  | none => exact doneAlike_throw _
  | some keyword =>
    dsimp only
    split_ifs
    · exact alike.execute rfl
    · exact doneAlike_throw _

theorem accept (text : String) : DoneAlike lost related (Session.accept text) := by
  rcases accept_cases text with ⟨number, change, _, same⟩ | same | ⟨stop, same⟩ | ⟨other, same⟩
  · exact same ▸ alike.put number change
  · exact same ▸ doneAlike_pure ()
  · exact same ▸ doneAlike_throw stop
  · exact same ▸ alike.executeAtOnce other

theorem handle (text : String) : DoneAlike lost related (Shell.handle text) := by
  rcases Shell.handle_cases text with same | same | ⟨command, _, same⟩
  · exact same ▸ (alike.accept text).bind fun _ => doneAlike_pure true
  · exact same ▸ doneAlike_throw _
  · exact same ▸ (alike.command command).bind fun _ => doneAlike_pure _

theorem report (verbose : Bool) (text : String) (cause : Fault) :
    DoneAlike lost related (Shell.report verbose text cause) := by
  refine (alike.note _ _ _ _).bind fun _ => ?_
  cases verbose with
  | true => exact (alike.say _).bind fun _ => (alike.say _).bind fun _ => alike.say _
  | false => exact alike.say _

/-- A line is processed alike in both sessions. -/
theorem process (verbose : Bool) (line : String) : DoneAlike lost related (Shell.process verbose line) := by
  rw [Shell.process_eq]
  apply (alike.handle _).onFault
  intro cause
  exact (alike.report _ _ _).bind fun _ => doneAlike_pure true

end Likeness

end LineBasic.Session
