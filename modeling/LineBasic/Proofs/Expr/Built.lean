import Mathlib
import LineBasic.Expr.Tree
import LineBasic.Proofs.Expr.Causes
import LineBasic.Proofs.Expr.Reading

/-!
The trees that reading builds. A reader whose threshold is not negative goes on only with
a token that names one of the five operators (`operator_of_threshold`), so that the trees it
builds, whose labels could be any texts, are the expressions (`built_iff`). None of them is
of a kind without a value or lacks an operand.
-/
namespace LineBasic

/-- A token that binds tighter than a threshold that is not negative names an operator, and
    the threshold for its right operand is not negative either. -/
theorem Expr.operator_of_threshold {token : Token} {threshold : Int} (nonneg : 0 ≤ threshold)
    (binds : threshold < token.precedence) :
    0 ≤ rightThreshold token ∧ ∃ operator, token.operator? = some operator ∧ token.text = operator.sign := by
  have positive : 0 < token.precedence := by omega
  obtain ⟨operator, joins⟩ := Token.operator?_of_precedence positive
  have named := (Token.isSign_iff.1 (Token.operator?_eq_some_iff.1 joins)).2
  refine ⟨?_, operator, joins, named⟩
  rw [rightThreshold_eq joins]
  omega

namespace Tree

/-- A tree that reading builds: a number or a name alone, or two such trees joined under the
    text of a token that binds tighter than the threshold 0. -/
inductive Built : Tree → Prop
  | constant (value : Int) : Built (.node constantKind (.number value) [])
  | identifier (name : String) : Built (.node variableKind (.text name) [])
  | binary {token : Token} {left right : Tree} (binds : 0 < token.precedence) (first : Built left)
      (second : Built right) : Built (.node binaryKind (.text token.text) [left, right])

theorem built_toTree (expression : Expr) : Built expression.toTree := by
  induction expression with
  | constant value => exact .constant value
  | identifier name => exact .identifier name
  | binary operator left right first second =>
    have binds : 0 < Token.precedence ⟨.operator, operator.sign⟩ := by
      rcases operator with _ | (_ | _ | _ | _) <;> decide
    exact .binary binds first second

/-- What is built is an expression, and every expression can be built. -/
theorem built_iff {tree : Tree} : Built tree ↔ ∃ expression : Expr, tree = expression.toTree := by
  constructor
  · intro built
    induction built with
    | constant value => exact ⟨.constant value, rfl⟩
    | identifier name => exact ⟨.identifier name, rfl⟩
    | binary binds _ _ first second =>
      obtain ⟨left, rfl⟩ := first
      obtain ⟨right, rfl⟩ := second
      obtain ⟨_, operator, _, named⟩ := Expr.operator_of_threshold le_rfl (Int.natCast_pos.2 binds)
      exact ⟨.binary operator left right, by rw [named, Expr.toTree]⟩
  · rintro ⟨expression, rfl⟩
    exact built_toTree expression

/-- What is built has a value, but for its variables, a division or the left side of an
    assignment. -/
theorem Built.stopsOnly_eval {tree : Tree} (built : Built tree) : Step.StopsOnly Stop.OfEvaluation tree.eval := by
  obtain ⟨expression, rfl⟩ := built_iff.1 built
  rw [eval_toTree]
  exact Expr.stopsOnly_eval expression

end Tree

end LineBasic
