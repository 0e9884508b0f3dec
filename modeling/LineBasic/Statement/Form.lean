import LineBasic.Statement.Basic

/-!
The forms of the statements that a program may hold. A line is checked against
its form when it is typed, before it is stored; the check is lighter than what
execution asks for, and refuses some lines that could be executed. It takes the
tokens of the line one after another, and no more of them than it needs.
-/
namespace LineBasic.Form

/-- Takes a token, which must be an accepted one. -/
def expect (accepts : Token → Bool) : Step Scanner Unit := do
  let token ← Scanner.next
  if accepts token then return () else Step.fail .malformed

/-- Requires that no token comes next. -/
def expectEnd : Step Scanner Unit := do
  if ← Scanner.hasMore then Step.fail .malformed

/-- Takes tokens up to one that ends the operand, which is taken too and must come.
    The others must be allowed in the operand. No more than so many are taken. -/
def passWithin (ends allowed : Token → Bool) : Nat → Step Scanner Unit
  | 0 => Step.fail .malformed
  | bound + 1 => do
    let token ← Scanner.next
    if token.isEnding then Step.fail .malformed
    else if ends token then return ()
    else if allowed token then passWithin ends allowed bound
    else Step.fail .malformed

/-- Takes an operand and the token that ends it. -/
def pass (ends allowed : Token → Bool) : Step Scanner Unit := do passWithin ends allowed ((← get).size + 1)

/-- A variable, `=`, and tokens without another `=`. -/
def expectAssignment : Step Scanner Unit := do
  expect Token.isVariable
  expect fun token => token.isSign "="
  let source ← Scanner.remaining
  if source.any fun token => token.isSign "=" then Step.fail .malformed

/-- The left operand of a condition, a relation, the right operand, `THEN` and a line
    number. The right operand may not hold a relation. -/
def expectCondition : Step Scanner Unit := do
  pass Token.isRelation Token.isPlain
  pass Token.isThen fun token => !token.isRelation && token.isPlain
  expect Token.isLineNumber
  expectEnd

/-- Characters after the keyword `PRINT` that may all stand in an expression. -/
def admitsPrinting (text : String) : Bool :=
  ((Text.trimStart text.toList).drop Keyword.print.word.length).all fun c => Text.isBlank c || isExpressionChar c

/-- Requires the form that a keyword asks for of what comes after it. What is printed
    is looked at as text. -/
def expectOperands (text : String) : Keyword → Step Scanner Unit
  | .remark => return ()
  | .assign => expectAssignment
  | .print => if admitsPrinting text then return () else Step.fail .malformed
  | .input => do
    expect Token.isVariable
    expectEnd
  | .stop => expectEnd
  | .jump => do
    expect Token.isLineNumber
    expectEnd
  | .branch => expectCondition

/-- Requires a keyword and operands of its form. -/
def expectStatement (text : String) : Step Scanner Unit := do
  let first ← Scanner.next
  match first.keyword? with
  | none => Step.fail .malformed
  | some keyword => expectOperands text keyword

/-- Checks a text that is to be stored as a line. -/
def check (text : String) : Except Stop Unit := (expectStatement text).isolated (Scanner.ofText text)

end LineBasic.Form
