import LineBasic.Number.Decimal
import LineBasic.Vocabulary

/-!
Expressions: integers, variables, and two expressions joined by an operator. The
operator `=` may join any two, but has a value only after a variable.
-/
namespace LineBasic

inductive Expr where
  | constant (value : Int)
  | identifier (name : String)
  | binary (operator : Operator) (left right : Expr)
  deriving DecidableEq, Repr

namespace Expr

/-- The expression as text, with round brackets around every operation. -/
def render : Expr → String
  | .constant value => Decimal.write value
  | .identifier name => name
  | .binary operator left right => "(" ++ left.render ++ " " ++ operator.sign ++ " " ++ right.render ++ ")"

end Expr

end LineBasic
