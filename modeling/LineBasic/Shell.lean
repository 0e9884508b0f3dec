import LineBasic.Session.Edit

/-!
The shell: it obeys commands, hands every other line to the session, and reports
faults. A fault never ends the shell. A conversation goes on until `QUIT`, until
the user has no more lines, or until the user breaks off.
-/
namespace LineBasic.Shell

/-- Does what a command says. `QUIT` is left to the caller. -/
def perform [Stack] [Screen] : Command → Action Unit
  | .run => Session.run
  | .list => Session.list
  | .clear => Session.clear
  | .help => Session.say helpText
  | .quit => return ()

/-- Obeys a text that starts with a command, and tells which it was. Nothing may
    follow a command. -/
def obey [Stack] [Screen] (text : String) : Action (Option Command) := do
  match ← Step.ofExcept (tokenize text) with
  | [] => return none
  | first :: later =>
    match first.command? with
    | none => return none
    | some command =>
      if later.isEmpty then
        perform command
        return some command
      else Step.fail .malformed

/-- Handles a text without blanks at its ends. The answer is whether to go on. -/
def handle [Stack] [Screen] (text : String) : Action Bool := do
  match ← obey text with
  | some command => return command != .quit
  | none =>
    Session.accept text
    return true

/-- What stands for the place of a fault in a verbose report. -/
def traceText (cause : Fault) : String := "<traceback>\nbasic.basic_errors." ++ cause.label ++ ": " ++ cause.message ++ "\n"

/-- Tells the user about a fault. -/
def report [Screen] (verbose : Bool) (text : String) (cause : Fault) : Action Unit := do
  Session.note .debug .shell ("Line " ++ Text.quoted text ++ " failed: " ++ cause.message)
  if verbose then
    Session.say "[error] >>>"
    Session.say (traceText cause)
  Session.say cause.message

/-- Handles a line and reports its fault, if it has one. The answer is whether to go on. -/
def process [Stack] [Screen] (verbose : Bool) (line : String) : Action Bool :=
  let text := Text.trim line
  if text = "" then return true
  else
    Step.onFault (handle text) fun cause => do
      report verbose text cause
      return true

/-- Whether a line switches verbose reports on or off. -/
def isSwitch (line : String) : Bool := (Text.trimmed line.toList).map Char.toLower == "verbose-mode".toList

/-- Handles a line of a conversation. The answer is how verbose to go on, if at all. -/
def answer [Stack] [Screen] (verbose : Bool) (line : String) : Action (Option Bool) := do
  if isSwitch line then
    Session.say ("[mode] >>> Verbose mode " ++ if verbose then "OFF" else "ON")
    return some !verbose
  else if ← process verbose line then return some verbose
  else return none

/-- One turn of a conversation: asks for a line and handles it. When the user has
    no more lines or breaks off, also while a statement asks for a value, an empty
    line is written and the conversation is over. -/
def turn [Stack] [Screen] (verbose : Bool) : Action (Option Bool) := fun session =>
  match (do answer verbose (← Session.ask "") : Action (Option Bool)) session with
  | .error .endOfInput reached | .error .interrupted reached => (do Session.say ""; return none : Action _) reached
  | ended => ended

/-- A conversation of at most so many turns. -/
def converse [Stack] [Screen] : Nat → Bool → Action Unit
  | 0, _ => return ()
  | bound + 1, verbose => do
    match ← turn verbose with
    | some verbose => converse bound verbose
    | none => return ()

/-- Greets the user and converses. Every turn but the last takes a reply. -/
def interact [Stack] [Screen] (verbose : Bool) : Action Unit := do
  Session.say banner
  converse ((← get).console.replies.length + 1) verbose

end LineBasic.Shell
