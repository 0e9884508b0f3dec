import Mathlib
import LineBasic.Expr.Eval
import LineBasic.Proofs.Expr.Grammar
import LineBasic.Proofs.Step.Keeps

/-!
What evaluating an expression does to the variables. Without an assignment it
leaves them (`Pure.leaves_eval`). A chain of assignments, the last of which gets a
value that assigns nothing, assigns only when it can no longer fail
(`Chain.atomic_eval`). Which tokens are there says which of the two is derived:
without `=` the expression is pure (`Derives.pure`), and without brackets it is at
least a chain (`Derives.chain`).
-/
namespace LineBasic

namespace Expr

/-- Nothing is assigned in the expression. -/
def Pure : Expr → Prop
  | .constant _ | .identifier _ => True
  | .binary operator left right => operator ≠ .assign ∧ left.Pure ∧ right.Pure

/-- The expression is pure, or assigns the value of a chain. What stands on the left
    of an assignment is not evaluated. -/
def Chain : Expr → Prop
  | .binary .assign _ source => source.Chain
  | expression => expression.Pure

theorem leaves_read (name : String) : Step.Leaves (fun vars : Variables => vars) (Variables.read name) := by
  intro seen vars same
  unfold Variables.read
  cases vars.get? name with
  | none => exact same
  | some value => exact ⟨trivial, same⟩

theorem Pure.leaves_eval {expression : Expr} (pure : expression.Pure) :
    Step.Leaves (fun vars : Variables => vars) expression.eval := by
  induction expression with
  | constant value => exact Step.leaves_pure value
  | identifier name => exact leaves_read name
  | binary operator left right first second =>
    obtain ⟨other, pureLeft, pureRight⟩ := pure
    cases operator with
    | assign => exact absurd rfl other
    | arithmetic operation =>
      unfold eval
      exact (first pureLeft).bind fun _ => (second pureRight).bind fun _ => Step.leaves_ofExcept _

theorem Pure.chain {expression : Expr} (pure : expression.Pure) : expression.Chain := by
  cases expression with
  | binary operator left right =>
    cases operator with
    | assign => exact absurd rfl pure.1
    | arithmetic => exact pure
  | constant | identifier => exact pure

theorem succeeds_assign (name : String) (value : Int) : Step.Succeeds (Variables.assign name value) := by
  intro vars stop reached ended
  cases ended

theorem Chain.atomic_eval {expression : Expr} (chain : expression.Chain) :
    Step.Atomic (fun vars : Variables => vars) expression.eval := by
  induction expression with
  | constant | identifier => exact (Pure.leaves_eval chain).atomic
  | binary operator left right _ second =>
    cases operator with
    | arithmetic => exact (Pure.leaves_eval chain).atomic
    | assign =>
      cases left with
      | identifier name =>
        unfold eval
        exact (second chain).bind fun value => (succeeds_assign name value).bind fun _ => Step.succeeds_pure value
      | constant | binary => exact (Step.leaves_fail _).atomic

end Expr

namespace Derives

variable {level : Nat} {tokens : List Token} {expression : Expr}

/-- Without `=` nothing is assigned. -/
theorem pure (derived : Derives level tokens expression) (free : ∀ token ∈ tokens, token.isSign "=" = false) :
    expression.Pure := by
  induction derived with
  | identifier | numeral | negative => trivial
  | bracketed _ _ _ ih =>
    exact ih fun token member => free token (List.mem_append_left _ (List.mem_cons_of_mem _ member))
  | ofTerm _ ih | ofProduct _ ih | ofSum _ ih => exact ih free
  | product _ _ _ _ first second | sum _ _ _ _ first second =>
    refine ⟨by simp, first fun token member => free token (List.mem_append_left _ member), ?_⟩
    exact second fun token member => free token (List.mem_append_right _ (List.mem_cons_of_mem _ member))
  | @assignment sign _ _ _ _ _ joins _ _ _ =>
    have plain := free sign (List.mem_append_right _ List.mem_cons_self)
    exact absurd joins (by simp [Operator.sign, plain])

/-- Without brackets, only whole expressions assign. -/
theorem pure_or_whole (derived : Derives level tokens expression) (free : ∀ token ∈ tokens, token.isSign "(" = false) :
    expression.Chain ∧ (1 ≤ level → expression.Pure) := by
  induction derived with
  | identifier | numeral | negative => exact ⟨trivial, fun _ => trivial⟩
  | @bracketed opening _ _ _ opens _ _ _ =>
    exact absurd opens (by simp [free opening (List.mem_append_left _ List.mem_cons_self)])
  | ofTerm _ ih | ofProduct _ ih => exact ⟨(ih free).1, fun _ => (ih free).2 (by omega)⟩
  | ofSum _ ih => exact ⟨(ih free).1, fun zero => absurd zero (by omega)⟩
  | @product _ operation _ _ left right _ _ _ _ first second | @sum _ operation _ _ left right _ _ _ _ first second =>
    have pureLeft := (first fun token member => free token (List.mem_append_left _ member)).2 (by omega)
    have later := fun token member => free token (List.mem_append_right _ (List.mem_cons_of_mem _ member))
    have pureRight := (second later).2 (by omega)
    have whole : Expr.Pure (.binary (.arithmetic operation) left right) := ⟨by simp, pureLeft, pureRight⟩
    exact ⟨whole.chain, fun _ => whole⟩
  | assignment _ _ _ _ second =>
    have later := fun token member => free token (List.mem_append_right _ (List.mem_cons_of_mem _ member))
    exact ⟨(second later).1, fun zero => absurd zero (by omega)⟩

theorem chain (derived : Derives level tokens expression) (free : ∀ token ∈ tokens, token.isSign "(" = false) :
    expression.Chain :=
  (derived.pure_or_whole free).1

end Derives

end LineBasic
