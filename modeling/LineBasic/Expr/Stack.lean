import LineBasic.Expr.Eval
import LineBasic.Expr.Parser

/-!
Room for the calls in progress. To read and to evaluate an expression take more calls
at once the deeper it is, and a machine has room for so many only. Where the room runs
out, the work is given up on the spot; what was assigned before stays assigned.
-/
namespace LineBasic

/-- Which expressions a machine has too little room for. -/
class Stack where
  /-- Whether the room runs out when the tokens are read as an expression. -/
  overflowsReading : List Token → Bool
  /-- The variables as they are when the room for evaluating runs out, if it does. -/
  overflowsEvaluating : Expr → Variables → Option Variables

namespace Expr

/-- The value of an expression, where there is room for so many levels of it. -/
def evalInRoom : Expr → Nat → Step Variables Int
  | _, 0 => throw .tooDeep
  | .constant value, _ + 1 => return value
  | .identifier name, _ + 1 => Variables.read name
  | .binary .assign (.identifier name) source, room + 1 => do
    let value ← source.evalInRoom room
    Variables.assign name value
    return value
  | .binary .assign _ _, _ + 1 => Step.fail .notAssignable
  | .binary (.arithmetic operation) left right, room + 1 => do
    let first ← left.evalInRoom room
    let second ← right.evalInRoom room
    operation.computeStep first second

end Expr

namespace Stack

/-- The tokens that a scanner has left. -/
def tokensLeft (scanner : Scanner) : List Token :=
  match Scanner.remaining.isolated scanner with
  | .ok tokens => tokens
  | .error _ => []

/-- Reads an expression that no token follows. -/
def read [Stack] : Step Scanner Expr := fun scanner =>
  if overflowsReading (tokensLeft scanner) then .error .tooDeep scanner else Expr.readAll scanner

/-- The value of an expression. -/
def evaluate [Stack] (expression : Expr) : Step Variables Int := fun vars =>
  match overflowsEvaluating expression vars with
  | some reached => .error .tooDeep reached
  | none => expression.eval vars

/-- A stack that never overflows. It is meant where no other one is named. -/
instance unbounded : Stack where
  overflowsReading _ := false
  overflowsEvaluating _ _ := none

@[simp] theorem read_unbounded : (read : Step Scanner Expr) = Expr.readAll := rfl

@[simp] theorem evaluate_unbounded (expression : Expr) : evaluate expression = expression.eval := rfl

/-- A stack with room for so many calls. Evaluating takes two of them for each level. -/
@[reducible] def ofCalls (calls : Nat) : Stack where
  overflowsReading tokens :=
    match Expr.readInRoom (Expr.depthFor (Scanner.ofTokens tokens)) calls 0 (Scanner.ofTokens tokens) with
    | .error .tooDeep _ => true
    | _ => false
  overflowsEvaluating expression vars :=
    match expression.evalInRoom (calls / 2) vars with
    | .error .tooDeep reached => some reached
    | _ => none

/-- The stack of the machine that the program runs on. -/
@[reducible] def usual : Stack := ofCalls 980

end Stack

end LineBasic
