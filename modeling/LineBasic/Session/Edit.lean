import LineBasic.Session.Execute
import LineBasic.Statement.Form

/-!
What the user does in a session: typing a line, running the program, listing it
and clearing it. A line that starts with a number edits the program; any other
line is executed at once.
-/
namespace LineBasic.Session

/-- The digits that start a text, and what follows the blanks after them. Nothing
    but blanks may follow the digits directly. -/
def splitNumber (text : List Char) : Option (List Char × List Char) :=
  match text.dropWhile Char.isDigit with
  | [] => some (text, [])
  | c :: rest => if Text.isBlank c then some (text.takeWhile Char.isDigit, Text.trimStart rest) else none

/-- Puts a statement into the program. -/
def store (number : Int) (statement : Statement) : Action Unit := do
  editProgram fun program => program.insert number statement
  note .debug .program ("Stored line " ++ Decimal.write number ++ ": " ++ statement.source)

/-- Takes a line out of the program, if there is one. -/
def remove (number : Int) : Action Unit := do
  if (← get).program.contains number then
    editProgram fun program => program.erase number
    note .debug .program ("Removed line " ++ Decimal.write number)

/-- The line number that some digits are. 0 is none, and neither is a number above
    the highest value. -/
def lineNumber (digits : List Char) : Except Stop Int := do
  let number ← Decimal.convert digits
  if number = 0 then .error (.fault .malformed)
  else if Word.highest < number then .error (.fault .noSuchLine)
  else .ok number

/-- Edits the program by a text that starts with a digit. A number alone removes
    its line. -/
def edit (text : List Char) : Action Unit := do
  match splitNumber text with
  | none => Step.fail .malformed
  | some (digits, body) =>
    let number ← Step.ofExcept (lineNumber digits)
    if body.isEmpty then remove number
    else
      let body := String.ofList body
      Step.ofExcept (Form.check body)
      match ← Step.ofExcept (Statement.keyword? body) with
      | some keyword => store number ⟨.known keyword, body⟩
      | none => Step.fail .malformed

/-- Executes a text as a statement that may do without a line number. -/
def executeAtOnce [Stack] [Screen] (text : String) : Action Unit := do
  match ← Step.ofExcept (Statement.keyword? text) with
  | some keyword =>
    if keyword.isImmediate then execute ⟨.known keyword, text⟩ else Step.fail .malformed
  | none => Step.fail .malformed

/-- Handles a line that is no command. A blank line does nothing. -/
def accept [Stack] [Screen] (text : String) : Action Unit :=
  match Text.trimmed text.toList with
  | [] => return ()
  | c :: rest => if c.isDigit then edit (c :: rest) else executeAtOnce (String.ofList (c :: rest))

/-- Executes the lines that the cursor comes to, until it stands nowhere. At most
    so many are executed. -/
def continueRun [Stack] [Screen] : Nat → Action Unit
  | 0 => throw .stepLimit
  | bound + 1 => do
    match (← get).program.cursor with
    | none => return ()
    | some number =>
      let statement ← onProgram (Program.fetch number)
      execute statement
      continueRun bound

/-- Runs the program from its first line. The cursor stands nowhere afterwards,
    however the run ended. -/
def run [Stack] [Screen] : Action Unit := do
  note .info .session ("RUN (" ++ Decimal.write (← get).program.size ++ " lines)")
  editProgram Program.start
  Step.ensuring (do continueRun ((← get).budget + 1)) fun session =>
    { session with program := session.program.halt }
  note .info .session "RUN finished"

/-- The lines of the program, as they are listed. -/
def listing (program : Program) : List String :=
  program.lines.map fun line => Decimal.write line.1 ++ " " ++ line.2.source

/-- Writes the lines of the program. -/
def list [Screen] : Action Unit := do (listing (← get).program).forM say

/-- Forgets the program and the variables. -/
def clear : Action Unit := do
  modify fun session => { session with program := {}, vars := {} }
  note .info .session "Program and variables cleared"

end LineBasic.Session
