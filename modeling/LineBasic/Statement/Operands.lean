import LineBasic.Expr.Stack
import LineBasic.Statement.Basic

/-!
The operands of a statement, as execution reads them from its text. The first
token of the text is the keyword and is not looked at.
-/
namespace LineBasic.Operands

/-- Reads what follows the first token of a text. -/
def after {α : Type} (reader : Step Scanner α) (text : String) : Except Stop α :=
  Step.isolated (do let _ ← Scanner.next; reader) (Scanner.ofText text)

/-- The name of a variable. -/
def variableName : Step Scanner String := do
  let token ← Scanner.next
  if token.isVariable then return token.text else Step.fail .malformed

/-- A variable, `=`, and the expression whose value it gets. -/
def assignment [Stack] : Step Scanner (String × Expr) := do
  let name ← variableName
  let sign ← Scanner.next
  if sign.isSign "=" then
    let source ← Stack.read
    return (name, source)
  else Step.fail .malformed

/-- The name of a variable, and nothing else. -/
def onlyVariable : Step Scanner String := do
  let name ← variableName
  if ← Scanner.hasMore then Step.fail .malformed else return name

/-- A line number, and nothing else. The number is read before the rest is looked at. -/
def target : Step Scanner Int := do
  let token ← Scanner.next
  let number ← Step.ofExcept (Decimal.readLiteral token.text)
  if ← Scanner.hasMore then Step.fail .malformed else return number

end LineBasic.Operands

namespace LineBasic

/-- The parts of a branch. The operands are read as expressions when they are
    evaluated, and the target as a number only if the relation holds. -/
structure Branch where
  left : List Token
  relation : Relation
  right : List Token
  target : Token
  deriving DecidableEq, Repr

namespace Branch

/-- The tokens before the first relation, the relation, and the tokens after it. -/
def splitRelation : List Token → Option (List Token × Relation × List Token)
  | [] => none
  | token :: later =>
    match token.relation? with
    | some relation => some ([], relation, later)
    | none => (splitRelation later).map fun parts => (token :: parts.1, parts.2)

/-- The tokens before the first `THEN`, and the tokens after it. -/
def splitThen : List Token → Option (List Token × List Token)
  | [] => none
  | token :: later =>
    if token.isThen then some ([], later) else (splitThen later).map fun parts => (token :: parts.1, parts.2)

/-- The parts of a branch: what stands before the first relation, what stands
    between it and the next `THEN`, and the one token after that. -/
def ofTokens? (tokens : List Token) : Option Branch := do
  let (left, relation, later) ← splitRelation tokens
  match ← splitThen later with
  | (right, [target]) => return ⟨left, relation, right, target⟩
  | _ => none

end Branch

end LineBasic
