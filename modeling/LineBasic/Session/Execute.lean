import LineBasic.Session.Basic
import LineBasic.Statement.Operands

/-!
Executing a statement. A statement first reads its operands, then computes, then
writes, assigns and moves the cursor. Every statement moves the cursor: to the
next line, to its target, or to nowhere.
-/
namespace LineBasic.Session

/-- The cursor as the log shows it. -/
def cursorText (program : Program) : String :=
  match program.cursor with
  | some number => Decimal.write number
  | none => "None"

/-- The value of an expression that has been read, if reading it did not fail. -/
def evaluate [Stack] (expression : Except Stop Expr) : Action Int := do
  let expression ← Step.ofExcept expression
  onVariables (Stack.evaluate expression)

/-- Asks for an integer, again and again until a reply is one. At most so many
    replies are looked at. -/
def askInteger [Screen] : Nat → Action Int
  | 0 => throw .endOfInput
  | bound + 1 => do
    let reply ← ask inputPrompt
    match Decimal.readReply reply with
    | .ok value => return value
    | .error (.fault cause) =>
      note .debug .statements ("Rejected INPUT value " ++ Text.quoted reply)
      say cause.message
      askInteger bound
    | .error stop => throw stop

/-- Puts the cursor on the next line. -/
def advance : Action Unit := editProgram Program.advance

/-- Does what a keyword says, with the operands in the text. -/
def perform [Stack] [Screen] : Keyword → String → Action Unit
  | .remark, _ => advance
  | .assign, source => do
    let (name, expression) ← Step.ofExcept (Operands.after Operands.assignment source)
    let value ← onVariables (Stack.evaluate expression)
    onVariables (Variables.assign name value)
    advance
  | .print, source => do
    let value ← evaluate (Operands.after Stack.read source)
    say (Decimal.write value)
    advance
  | .input, source => do
    let name ← Step.ofExcept (Operands.after Operands.onlyVariable source)
    let value ← askInteger ((← get).console.replies.length + 1)
    onVariables (Variables.assign name value)
    advance
  | .stop, _ => editProgram Program.halt
  | .jump, source => do
    let number ← Step.ofExcept (Operands.after Operands.target source)
    onProgram (Program.jump number)
  | .branch, source => do
    let tokens ← Step.ofExcept (Operands.after Scanner.remaining source)
    match Branch.ofTokens? tokens with
    | none => Step.fail .malformed
    | some branch =>
      let left ← evaluate (Stack.read.isolated (Scanner.ofTokens branch.left))
      let right ← evaluate (Stack.read.isolated (Scanner.ofTokens branch.right))
      if branch.relation.holds left right then
        let number ← Step.ofExcept (Decimal.readLiteral branch.target.text)
        onProgram (Program.jump number)
      else advance

/-- Executes a statement, which takes one from the budget whatever its kind. -/
def execute [Stack] [Screen] (statement : Statement) : Action Unit := do
  countDown
  match statement.kind with
  | .unknown _ => Step.fail .malformed
  | .known keyword =>
    note .debug .statements
      ("Executing [" ++ cursorText (← get).program ++ "] " ++ statement.source)
    perform keyword statement.source

end LineBasic.Session
