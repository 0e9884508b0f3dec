import LineBasic.Expr.Basic
import LineBasic.Number.Word
import LineBasic.Variables

/-!
The value of an expression. The left operand is evaluated before the right one,
since either may assign. An assignment has the value that it assigns; whether its
left side is a variable is looked at first. What was assigned before a failure
stays assigned.
-/
namespace LineBasic

/-- Computes with two values, and wraps the result into the range of values. -/
def Arithmetic.compute : Arithmetic → Int → Int → Except Fault Int
  | .add, left, right => .ok (Word.wrap (left + right))
  | .subtract, left, right => .ok (Word.wrap (left - right))
  | .multiply, left, right => .ok (Word.wrap (left * right))
  | .divide, left, right => (Word.divide left right).map Word.wrap

/-- Computes with two values in an expression. -/
def Arithmetic.computeStep (operation : Arithmetic) (left right : Int) : Step Variables Int :=
  Step.ofExcept ((operation.compute left right).mapError Stop.fault)

namespace Expr

/-- The value of an expression, which may assign variables. -/
def eval : Expr → Step Variables Int
  | .constant value => return value
  | .identifier name => Variables.read name
  | .binary .assign (.identifier name) source => do
    let value ← source.eval
    Variables.assign name value
    return value
  | .binary .assign _ _ => Step.fail .notAssignable
  | .binary (.arithmetic operation) left right => do
    let first ← left.eval
    let second ← right.eval
    operation.computeStep first second

end Expr

end LineBasic
