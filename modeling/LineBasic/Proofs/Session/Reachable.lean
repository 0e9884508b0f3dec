import Mathlib
import LineBasic.Proofs.Session.Proper
import LineBasic.Shell

/-!
The sessions that come about by use. From an empty program and no variables, any
calls may be made in any order, with any replies of the user; a call that fails
leaves the state that it had reached. The shell handles a line as the word of a
command or hands it to the session (`Shell.handle_cases`). All of these sessions are
proper (`Reachable.proper`), so that their variables have the names and values of the
language (`Reachable.entries_in_domain`).
-/
namespace LineBasic

theorem Token.command?_eq_some_iff {token : Token} {command : Command} :
    token.command? = some command ↔ token = ⟨.word, command.word⟩ := by
  obtain ⟨kind, text⟩ := token
  constructor
  · intro found
    unfold command? at found
    by_cases word : kind = .word
    · subst word
      have same := List.find?_some (p := fun other : Command => other.word == text) found
      rw [← beq_iff_eq.1 same]
    · simp [word] at found
  · intro same
    rw [same]
    cases command <;> decide

namespace Shell

/-- What does not start with the word of a command is handed to the session. -/
theorem handle_eq_accept [Stack] [Screen] {text : String}
    (other : ∀ first ∈ (Lexer.tokens text.toList).head?, first.command? = none) :
    handle text = (do Session.accept text; return true) := by
  unfold handle obey
  rw [tokenize_eq, Step.ofExcept_ok_bind]
  cases listed : Lexer.tokens text.toList with
  | nil => rfl
  | cons first later =>
    rw [listed] at other
    dsimp only
    rw [other first rfl]
    rfl

theorem handle_nothing [Stack] [Screen] : handle "" = pure true := by
  have none : Lexer.tokens "".toList = [] := by decide +kernel
  have other : ∀ first ∈ (Lexer.tokens "".toList).head?, first.command? = Option.none := by
    intro first isFirst
    rw [none] at isFirst
    cases isFirst
  rw [handle_eq_accept other]
  rfl

/-- A command alone is obeyed. -/
theorem handle_of_command [Stack] [Screen] {text : String} {command : Command}
    (listed : Lexer.tokens text.toList = [⟨.word, command.word⟩]) :
    handle text = (do perform command; return command != .quit) := by
  unfold handle obey
  rw [tokenize_eq, Step.ofExcept_ok_bind, listed]
  dsimp only
  rw [Token.command?_eq_some_iff.2 rfl]
  exact bind_assoc _ _ _

/-- A command that more comes after is refused. -/
theorem handle_of_overfull [Stack] [Screen] {text : String} {command : Command} {next : Token} {later : List Token}
    (listed : Lexer.tokens text.toList = ⟨.word, command.word⟩ :: next :: later) :
    handle text = Step.fail .malformed := by
  unfold handle obey
  rw [tokenize_eq, Step.ofExcept_ok_bind, listed]
  dsimp only
  rw [Token.command?_eq_some_iff.2 rfl]
  rfl

/-- A text is handed to the session, or it starts with the word of a command. If it is
    nothing else, the command is obeyed. -/
theorem handle_cases [Stack] [Screen] (text : String) :
    handle text = (do Session.accept text; return true) ∨ handle text = Step.fail .malformed ∨
      ∃ command : Command, Lexer.tokens text.toList = [⟨.word, command.word⟩] ∧
        handle text = (do perform command; return command != .quit) := by
  by_cases other : ∀ first ∈ (Lexer.tokens text.toList).head?, first.command? = none
  · exact .inl (handle_eq_accept other)
  · push Not at other
    obtain ⟨first, isFirst, known⟩ := other
    obtain ⟨command, starts⟩ := Option.ne_none_iff_exists'.1 known
    obtain ⟨later, listed⟩ := List.head?_eq_some_iff.1 isFirst
    rw [Token.command?_eq_some_iff.1 starts] at listed
    cases later with
    | nil => exact .inr (.inr ⟨command, listed, handle_of_command listed⟩)
    | cons next later => exact .inr (.inl (handle_of_overfull listed))

/-- A line is handled, and a fault reported. A blank line is no exception, since there
    is nothing to handle. -/
theorem process_eq [Stack] [Screen] (verbose : Bool) (line : String) :
    process verbose line = Step.onFault (handle (Text.trim line)) fun cause => do
      report verbose (Text.trim line) cause
      return true := by
  unfold process
  dsimp only
  by_cases nothing : Text.trim line = ""
  · rw [if_pos nothing, nothing, handle_nothing]
    rfl
  · rw [if_neg nothing]

end Shell

/-- What can be asked of a session from outside. -/
inductive Call where
  | process (verbose : Bool) (line : String)
  | accept (text : String)
  | run
  | clear
  deriving DecidableEq, Repr

def Call.action : Call → Action Unit
  | .process verbose line => do let _ ← Shell.process verbose line
  | .accept text => Session.accept text
  | .run => Session.run
  | .clear => Session.clear

namespace Session

/-- The session comes about by calls. Between them the user may get new replies
    ready, and the budget may be renewed. -/
inductive Reachable : Session → Prop
  | fresh (console : Console) (budget : Nat) : Reachable { console := console, budget := budget }
  | call {session : Session} (before : Reachable session) (call : Call) : Reachable (call.action.reached session)
  | meanwhile {session : Session} (before : Reachable session) (console : Console) (budget : Nat) :
      Reachable { session with console := console, budget := budget }

/-! ### Calls -/

theorem leaves_report (verbose : Bool) (text : String) (cause : Fault) :
    Step.Leaves holdings (Shell.report verbose text cause) := by
  refine ((leaves_note _ _ _).comp Prod.fst).bind fun _ => ?_
  cases verbose with
  | true => exact (leaves_say _).bind fun _ => (leaves_say _).bind fun _ => leaves_say _
  | false => exact leaves_say _

section
variable {holds : Session → Prop}

/-- What all commands keep whose words the text can be, and the session with the text,
    handling it keeps. -/
theorem keeps_handle (text : String)
    (commands : ∀ command : Command, Lexer.tokens text.toList = [⟨.word, command.word⟩] →
      Step.Keeps holds (fun _ => True) (Shell.perform command))
    (accepts : Step.Keeps holds (fun _ => True) (accept text)) :
    Step.Keeps holds (fun _ => True) (Shell.handle text) := by
  rcases Shell.handle_cases text with same | same | ⟨command, listed, same⟩
  · exact same ▸ accepts.bind fun _ _ => Step.keeps_pure trivial
  · exact same ▸ Step.keeps_fail _
  · exact same ▸ (commands command listed).bind fun _ _ => Step.keeps_pure trivial

variable (blind : ∀ action : Action Unit, Step.Leaves holdings action → Step.Keeps holds (fun _ => True) action)

include blind

/-- A property of what a session holds is kept by every command but those that run
    the program or clear it. -/
theorem keeps_command (runs : Step.Keeps holds (fun _ => True) run) (command : Command)
    (clears : command = .clear → Step.Keeps holds (fun _ => True) clear) :
    Step.Keeps holds (fun _ => True) (Shell.perform command) := by
  cases command with
  | run => exact runs
  | clear => exact clears rfl
  | list => exact blind _ leaves_list
  | help => exact blind _ (leaves_say _)
  | quit => exact Step.keeps_pure trivial

theorem keeps_process {line text : String} (trims : Text.trim line = text)
    (commands : ∀ command : Command, Lexer.tokens text.toList = [⟨.word, command.word⟩] →
      Step.Keeps holds (fun _ => True) (Shell.perform command))
    (accepts : Step.Keeps holds (fun _ => True) (accept text)) (verbose : Bool) :
    Step.Keeps holds (fun _ => True) (Shell.process verbose line) := by
  rw [Shell.process_eq, trims]
  apply Step.Keeps.onFault (keeps_handle text commands accepts)
  intro cause
  exact (blind _ (leaves_report _ _ _)).bind fun _ _ => Step.keeps_pure trivial

/-- A property of what a session holds is kept by every call if running, clearing and
    the lines that are no commands keep it. -/
theorem keeps_call (runs : Step.Keeps holds (fun _ => True) run) (clears : Step.Keeps holds (fun _ => True) clear)
    (accepts : ∀ text, Step.Keeps holds (fun _ => True) (accept text)) (call : Call) :
    Step.Keeps holds (fun _ => True) call.action := by
  cases call with
  | process verbose line =>
    obtain ⟨text, trims⟩ : ∃ text, Text.trim line = text := ⟨_, rfl⟩
    have processes := keeps_process blind trims (fun command _ => keeps_command blind runs command fun _ => clears)
      (accepts text) verbose
    exact processes.bind fun _ _ => Step.keeps_pure trivial
  | accept text => exact accepts text
  | run => exact runs
  | clear => exact clears

end

/-! ### Sessions -/

/-- Every session that comes about is proper. -/
theorem Reachable.proper {session : Session} (reachable : session.Reachable) : session.Proper := by
  induction reachable with
  | fresh console budget => exact ⟨Program.proper_empty, Variables.wellFormed_empty⟩
  | call _ call ih =>
    exact (keeps_call (fun _ => keepsProper_of_leaves) keeps_run keeps_clear keeps_accept call).reached ih
  | meanwhile _ console budget ih => exact ⟨ih.program, ih.vars⟩

/-- Every variable of a session that comes about has a name that can name one, and a
    value of 32 bits. -/
theorem Reachable.entries_in_domain {session : Session} (reachable : session.Reachable) :
    ∀ entry ∈ session.vars.entries,
      isIdentifier entry.1 = true ∧ -2147483648 ≤ entry.2 ∧ entry.2 ≤ 2147483647 :=
  reachable.proper.vars

/-- `LET a = b = 2147483647 + 1` assigns both variables. -/
theorem entries_after_chain :
    ∃ session : Session, session.Reachable ∧ session.vars.entries = [("b", -2147483648), ("a", -2147483648)] ∧
      ∀ entry ∈ session.vars.entries, isIdentifier entry.1 = true ∧ -2147483648 ≤ entry.2 ∧ entry.2 ≤ 2147483647 := by
  have reachable : Reachable ((Call.process false "LET a = b = 2147483647 + 1").action.reached { budget := 1 }) :=
    (Reachable.fresh {} 1).call _
  have assigned : ((Call.process false "LET a = b = 2147483647 + 1").action.reached { budget := 1 }).vars.entries =
      [("b", -2147483648), ("a", -2147483648)] := by
    decide +kernel
  exact ⟨_, reachable, assigned, reachable.entries_in_domain⟩

end Session

end LineBasic
