import LineBasic.Console
import LineBasic.Expr.Eval
import LineBasic.Log
import LineBasic.Program

/-!
A session: a program, the variables, the console that the user sits at, and the
log. A session executes at most a given number of statements; the budget says how
many are left.
-/
namespace LineBasic

structure Session where
  program : Program := {}
  vars : Variables := {}
  console : Console := {}
  /-- The log, the last entry first. -/
  noted : List LogEntry := []
  budget : Nat
  deriving DecidableEq, Repr

/-- An action in a session. -/
abbrev Action (α : Type) := Step Session α

namespace Session

/-- The log, in order. -/
def log (session : Session) : List LogEntry := session.noted.reverse

/-- Runs an action on the program. -/
def onProgram {α : Type} (action : Step Program α) : Action α :=
  Step.onPart Session.program (fun session program => { session with program := program }) action

/-- Changes the program. -/
def editProgram (change : Program → Program) : Action Unit :=
  modify fun session => { session with program := change session.program }

/-- Runs an action on the variables. -/
def onVariables {α : Type} (action : Step Variables α) : Action α :=
  Step.onPart Session.vars (fun session vars => { session with vars := vars }) action

/-- Runs an action on the console. -/
def onConsole {α : Type} (action : Step Console α) : Action α :=
  Step.onPart Session.console (fun session console => { session with console := console }) action

/-- Writes a line on the console. -/
def say [Screen] (text : String) : Action Unit := onConsole (Console.say text)

/-- Asks for a line on the console. -/
def ask (prompt : String) : Action String := onConsole (Console.ask prompt)

/-- Adds an entry to the log. -/
def note (level : LogLevel) (source : LogSource) (text : String) : Action Unit :=
  modify fun session => { session with noted := ⟨level, source, text⟩ :: session.noted }

/-- Takes one statement from the budget. -/
def countDown : Action Unit := fun session =>
  match session.budget with
  | 0 => .error .stepLimit session
  | left + 1 => .ok () { session with budget := left }

end Session

end LineBasic
