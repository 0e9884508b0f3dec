import LineBasic.Shell
import LineBasic.Text.Break

/-!
Loading a program text: each of its lines is handled as if it were typed at the
shell, so that a text may hold commands and statements besides numbered lines.
`QUIT` ends the loading, and then the program is not run.
-/
namespace LineBasic.CommandLine

/-- Whether a name is the name of a program file. -/
def isProgramFile (name : String) : Bool := ".bas".toList.isSuffixOf name.toList

/-- The text in a file: UTF-8, with every kind of line end read as a line feed. -/
def fileText (contents : ByteArray) : Except Stop String :=
  match String.fromUTF8? contents with
  | some text => .ok (String.ofList (Text.withLineFeeds text.toList))
  | none => .error .notText

/-- The program text that a source stands for: itself, or what the file of that
    name holds. -/
def programText (source : String) (inline : Bool) (contents : Except FileFault ByteArray) :
    Except Stop String :=
  if inline then .ok source
  else if !isProgramFile source then .error .notProgramFile
  else if source.toList.contains (Char.ofNat 0) then .error .badFileName
  else
    match contents with
    | .ok contents => fileText contents
    | .error cause => .error (.unreadable cause)

/-- Handles lines one after another. The answer is whether none of them was `QUIT`. -/
def processAll [Stack] [Screen] (verbose : Bool) : List String → Action Bool
  | [] => return true
  | line :: later => do
    if ← Shell.process verbose line then processAll verbose later else return false

/-- Loads a program text, and runs the program if that is asked for. -/
def load [Stack] [Screen] (text : String) (run verbose : Bool) : Action Unit := do
  let lines := Text.splitLines text
  Session.note .info .commandLine ("Loading " ++ Decimal.write lines.length ++ " lines")
  if ← processAll verbose lines then
    if run then
      let _ ← Shell.process verbose Command.run.word

/-- Loads the program that a source stands for. -/
def loadSource [Stack] [Screen] (source : String) (inline run verbose : Bool) (contents : Except FileFault ByteArray) :
    Action Unit := do
  let text ← Step.ofExcept (programText source inline contents)
  load text run verbose

/-- What a session has put on the terminal. -/
def terminalText (session : Session) : String := String.join (session.console.transcript.map Entry.render)

/-- The log of a session as text. -/
def logText (session : Session) : String := String.join (session.log.map LogEntry.render)

end LineBasic.CommandLine
