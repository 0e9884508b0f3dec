import LineBasic.CommandLine.Arguments
import LineBasic.CommandLine.Load
import LineBasic.CommandLine.Usage

/-!
The program: it reads its arguments, and follows a session on the terminal.

What a session shows is determined by the replies known so far. So an action is
run with those, what is new is shown, and when it has come to a prompt without a
reply, the user is asked for one and the action is run again with one reply more.
An action that uses up its budget is run again with a larger one in the same way.
-/
namespace LineBasic.Terminal

/-- What has been shown of an action so far, and what it may use. -/
structure Progress where
  replies : List Reply
  budget : Nat
  shown : Nat := 0
  logged : Nat := 0

/-- The lines of standard input up to the next line end, none at its end. -/
def readReplies : IO (List Reply) := do
  let line ← (← IO.getStdin).getLine
  return (Text.typedLines line).map Reply.line

/-- Shows what is new in a record and, if that is wished, in a log. -/
def showNew (verbose : Bool) (progress : Progress) (entries : List Entry) (log : List LogEntry) : IO Progress := do
  let output ← IO.getStdout
  for entry in entries.drop progress.shown do
    output.putStr entry.render
  output.flush
  if verbose then
    for entry in log.drop progress.logged do
      IO.eprint entry.render
  return { progress with shown := max progress.shown entries.length, logged := max progress.logged log.length }

/-- Follows an action of a session to its end. -/
partial def follow {α : Type} (logged : Bool) (action : Action α) (session : Session) (progress : Progress) :
    IO (Except Stop α × Session) := do
  let start := { session with console := { replies := progress.replies }, noted := [], budget := progress.budget }
  let (result, reached) := Step.outcome action start
  let entries := reached.console.transcript
  match Console.upToPrompt progress.replies.length entries, result with
  | some visible, _ =>
    let progress ← showNew logged progress visible reached.log
    match ← readReplies with
    | [] =>
      let _ ← showNew logged progress entries reached.log
      return (result, reached)
    | replies => follow logged action session { progress with replies := progress.replies ++ replies }
  | none, .error .stepLimit =>
    let progress ← showNew logged progress entries reached.log
    follow logged action session { progress with budget := 2 * progress.budget }
  | none, _ =>
    let _ ← showNew logged progress entries reached.log
    return (result, reached)

/-- How many statements an action may execute at first. -/
def firstBudget : Nat := 100000

/-- Follows an action from its start. -/
def followAll {α : Type} (logged : Bool) (action : Action α) (session : Session) : IO (Except Stop α × Session) :=
  follow logged action session { replies := session.console.replies, budget := firstBudget }

/-- Ends the program as an action ended. -/
def exitCode {α : Type} : Except Stop α → IO UInt32
  | .ok _ => return 0
  | .error stop => do
    IO.eprintln stop.message
    return 1

attribute [local instance] Stack.usual in
/-- Follows the turns of a conversation, one after another. -/
partial def converse (logged verbose : Bool) (session : Session) : IO UInt32 := do
  let (result, reached) ← followAll logged (Shell.turn verbose) session
  match result with
  | .ok (some verbose) => converse logged verbose reached
  | _ => exitCode result

/-- What a file holds, or why it cannot be read. -/
def readContents (name : String) : IO (Except FileFault ByteArray) := do
  try return .ok (← IO.FS.readBinFile name)
  catch
  | .inappropriateType .. => return .error .notFolder
  | .invalidArgument .. => return .error .nameTooLong
  | _ => return .error .missing

end LineBasic.Terminal

open LineBasic LineBasic.Terminal in
attribute [local instance] Stack.usual in
def main (arguments : List String) : IO UInt32 := do
  let session : Session := { budget := firstBudget }
  match CommandLine.request arguments with
  | .error _ =>
    IO.eprintln CommandLine.usage
    return 2
  | .ok .help =>
    IO.println CommandLine.account
    return 0
  | .ok (.converse verbose) =>
    let (_, greeted) ← followAll verbose (Session.say banner) session
    converse verbose verbose greeted
  | .ok (.load source inline run verbose) =>
    let contents ← if inline then pure (.error .missing) else readContents source
    let (result, _) ← followAll verbose (CommandLine.loadSource source inline run verbose contents) session
    exitCode result
