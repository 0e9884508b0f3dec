import LineBasic.Expr.Basic
import LineBasic.Number.Decimal
import LineBasic.Token.Scanner

/-!
Reading an expression from a scanner. A term is a variable, an integer literal
with or without a minus sign, or an expression in round brackets. Terms are joined
by operators that bind tighter than a threshold; the token that ends the
expression is given back. Operators of one precedence group to the left, and `=`
groups to the right.
-/
namespace LineBasic.Expr

/-- What an operator of the right operand must bind tighter than. A sign that
    groups to the right allows itself. -/
def rightThreshold (token : Token) : Int :=
  if token.text = Operator.assign.sign then token.precedence - 1 else token.precedence

/-- Reads a term, where `inner` reads what is in brackets. -/
def termOf (inner : Step Scanner Expr) : Step Scanner Expr := do
  let token ← Scanner.next
  match token.kind with
  | .word => if reserved.contains token.text then Step.fail .malformed else return .identifier token.text
  | .number => return .constant (← Step.ofExcept (Decimal.readLiteral token.text))
  | .operator =>
    if token.text = "-" then
      let numeral ← Scanner.next
      if numeral.kind ≠ .number then Step.fail .invalidNumber
      else return .constant (← Step.ofExcept (Decimal.readLiteral ("-" ++ numeral.text)))
    else if token.text = "(" then
      let inner ← inner
      let closing ← Scanner.next
      if closing.isSign ")" then return inner else Step.fail .malformed
    else Step.fail .malformed
  | _ => Step.fail .malformed

/-- Answers with the expression on the left if the next token does not bind tighter than
    the threshold. Otherwise `operand` reads the right operand, for which it is told the
    threshold, and `onward` goes on from the operation. Below the threshold 0 every token
    counts as an operator, endings too, so that no expression ends. -/
def joinOf (operand : Int → Step Scanner Expr) (onward : Expr → Step Scanner Expr) (threshold : Int) (left : Expr) :
    Step Scanner Expr := do
  let token ← Scanner.next
  if token.precedence ≤ threshold then
    Scanner.pushBack token
    return left
  let right ← operand (rightThreshold token)
  match token.operator? with
  | some operator => onward (.binary operator left right)
  | none => onward left

mutual

/-- Reads an expression whose operators all bind tighter than the threshold. The
    first argument bounds the depth of the calls. -/
def readWithin : Nat → Int → Step Scanner Expr
  | 0, _ => throw .tooDeep
  | depth + 1, threshold => do
    let left ← readTerm depth
    readJoined depth threshold left

/-- Joins operators and operands to the expression on their left, for as long as
    the operators bind tighter than the threshold. -/
def readJoined : Nat → Int → Expr → Step Scanner Expr
  | 0, _, _ => throw .tooDeep
  | depth + 1, threshold, left => joinOf (readWithin depth) (readJoined depth threshold) threshold left

/-- Reads a term. -/
def readTerm : Nat → Step Scanner Expr
  | 0 => throw .tooDeep
  | depth + 1 => termOf (readWithin depth 0)

end

mutual

/-- Reads as `readWithin` does, where there is room for so many calls. The first
    argument bounds the turns of the loop as well, which take no room. -/
def readInRoom : Nat → Nat → Int → Step Scanner Expr
  | 0, _, _ | _ + 1, 0, _ => throw .tooDeep
  | depth + 1, room + 1, threshold => do
    let left ← readTermInRoom depth room
    readJoinedInRoom depth room threshold left

def readJoinedInRoom : Nat → Nat → Int → Expr → Step Scanner Expr
  | 0, _, _, _ => throw .tooDeep
  | depth + 1, room, threshold, left =>
    joinOf (readInRoom depth room) (readJoinedInRoom depth room threshold) threshold left

/-- Reads a term, which is a call of its own. -/
def readTermInRoom : Nat → Nat → Step Scanner Expr
  | 0, _ => throw .tooDeep
  | depth + 1, room => termOf (readInRoom depth (room - 1) 0)

end

/-- A depth that no expression of a scanner reaches: every second call takes a
    token, or meets the end and fails. -/
def depthFor (scanner : Scanner) : Nat := 2 * scanner.size + 4

/-- Reads the longest expression whose operators all bind tighter than the
    threshold, and leaves the tokens after it. -/
def read (threshold : Int) : Step Scanner Expr := do readWithin (depthFor (← get)) threshold

/-- Reads an expression that no token follows. -/
def readAll : Step Scanner Expr := do
  let expression ← read 0
  if ← Scanner.hasMore then Step.fail .malformed else return expression

/-- The expression that a text is. -/
def ofText (text : String) : Except Stop Expr := readAll.isolated (Scanner.ofText text)

/-- The expression that a list of tokens is. -/
def ofTokens (tokens : List Token) : Except Stop Expr := readAll.isolated (Scanner.ofTokens tokens)

end LineBasic.Expr
