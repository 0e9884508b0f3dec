import Mathlib
import LineBasic.Expr.Eval
import LineBasic.Proofs.Step.Outcome

/-!
Definite assignment. From the names that are defined at first, a check follows the order of
evaluation and tells which names are defined in the end, or that an undefined one is read
(`Expr.defines?`). Only a division by 0 can keep an evaluation from ending as the check
foretells (`Expr.foretells_eval`), so that without a division it succeeds exactly where the
check passes (`Expr.eval_of_defines`).
-/
namespace LineBasic

namespace Variables

/-- The names that have a value. -/
def defined (vars : Variables) : Finset String := (vars.entries.map Prod.fst).toFinset

theorem mem_defined_iff {vars : Variables} {name : String} : name ∈ vars.defined ↔ vars.isDefined name = true := by
  unfold defined isDefined get?
  rw [List.mem_toFinset, List.mem_map, List.lookup_isSome_iff]
  simp

theorem defined_set (vars : Variables) (name : String) (value : Int) :
    (vars.set name value).defined = insert name vars.defined := by
  ext other
  rw [Finset.mem_insert, mem_defined_iff, mem_defined_iff, isDefined, isDefined, get?_set]
  split_ifs with same <;> simp [same]

end Variables

namespace Expr

/-- Every assignment is to a variable. -/
def AssignsVariables : Expr → Prop
  | .constant _ | .identifier _ => True
  | .binary .assign (.identifier _) source => source.AssignsVariables
  | .binary .assign _ _ => False
  | .binary (.arithmetic _) left right => left.AssignsVariables ∧ right.AssignsVariables

/-- The operators in an expression. -/
def operators : Expr → List Operator
  | .constant _ | .identifier _ => []
  | .binary operator left right => operator :: (left.operators ++ right.operators)

/-- The names that are defined after an expression, if those that are known are defined before
    it. There are none if a name is read that is not defined then. -/
def defines? : Expr → Finset String → Option (Finset String)
  | .constant _, known => some known
  | .identifier name, known => if name ∈ known then some known else none
  | .binary .assign (.identifier name) source, known => (source.defines? known).map (insert name)
  | .binary .assign _ _, _ => none
  | .binary (.arithmetic _) left right, known => (left.defines? known).bind right.defines?

/-- The evaluation ends as the check foretells, or in a division by 0 if there is a division. -/
inductive Foretells (divides : Prop) : Option (Finset String) → EStateM.Result Stop Variables Int → Prop
  | defined (value : Int) (after : Variables) : Foretells divides (some after.defined) (.ok value after)
  | undefined (after : Variables) : Foretells divides none (.error (.fault .undefinedVariable) after)
  | divided (may : divides) (foretold : Option (Finset String)) (after : Variables) :
      Foretells divides foretold (.error (.fault .divisionByZero) after)

variable {expression : Expr} {divides : Prop}

theorem foretells_read (name : String) (vars : Variables) :
    Foretells divides (defines? (.identifier name) vars.defined) (Variables.read name vars) := by
  unfold Variables.read
  cases found : vars.get? name with
  | none =>
    have unknown : name ∉ vars.defined := by simp [Variables.mem_defined_iff, Variables.isDefined, found]
    rw [defines?, if_neg unknown]
    exact .undefined vars
  | some value =>
    have known : name ∈ vars.defined := by simp [Variables.mem_defined_iff, Variables.isDefined, found]
    rw [defines?, if_pos known]
    exact .defined value vars

theorem foretells_computeStep {operation : Arithmetic} (may : operation = .divide → divides) (left right : Int)
    (vars : Variables) : Foretells divides (some vars.defined) (operation.computeStep left right vars) := by
  cases operation with
  | divide =>
    by_cases zero : right = 0
    · simp only [Arithmetic.computeStep, Arithmetic.compute, Word.divide, if_pos zero]
      exact .divided (may rfl) _ vars
    · simp only [Arithmetic.computeStep, Arithmetic.compute, Word.divide, if_neg zero]
      exact .defined _ vars
  | add | subtract | multiply => exact .defined _ vars

/-- What is foretold of two actions, one after the other: the second one knows the names that
    the first one defines. -/
theorem Foretells.bind {foretold : Option (Finset String)} {further : Finset String → Option (Finset String)}
    {action : Step Variables Int} {next : Int → Step Variables Int} {vars : Variables}
    (first : Foretells divides foretold (action vars))
    (later : ∀ value after, Foretells divides (further after.defined) (next value after)) :
    Foretells divides (foretold.bind further) ((action >>= next) vars) := by
  rw [Step.bind_apply]
  generalize action vars = ended at first
  cases first with
  | defined value after => exact later value after
  | undefined after => exact .undefined after
  | divided may _ after => exact .divided may _ after

/-- The check is right about every evaluation that no division by 0 ends. -/
theorem foretells_eval (toVariables : expression.AssignsVariables)
    (may : .arithmetic .divide ∈ expression.operators → divides) (vars : Variables) :
    Foretells divides (expression.defines? vars.defined) (expression.eval vars) := by
  induction expression using Expr.eval.induct generalizing vars with
  | case1 value => exact .defined value vars
  | case2 name => exact foretells_read name vars
  | case3 name source ih =>
    have assigns : ∀ value (after : Variables), Foretells divides (some (insert name after.defined))
        ((do Variables.assign name value; return value : Step Variables Int) after) := by
      intro value after
      rw [← Variables.defined_set after name value]
      exact .defined value (after.set name value)
    have onSource := ih toVariables (fun member => may (by simp [operators, member])) vars
    rw [defines?, Option.map_eq_bind]
    exact onSource.bind assigns
  | case4 target source other =>
    cases target with
    | identifier name => exact absurd rfl (other name)
    | constant | binary => exact toVariables.elim
  | case5 operation left right first second =>
    obtain ⟨leftToVariables, rightToVariables⟩ := toVariables
    have onLeft := first leftToVariables (fun member => may (by simp [operators, member])) vars
    have onRight := second rightToVariables fun member => may (by simp [operators, member])
    have here : operation = .divide → divides := fun same => may (by simp [operators, same])
    unfold defines? eval
    refine onLeft.bind fun one middle => ?_
    rw [← Option.bind_fun_some (right.defines? middle.defined)]
    exact (onRight middle).bind fun other after => foretells_computeStep here one other after

/-- For an expression that assigns to variables only: if the check passes from the names that
    are defined, the evaluation fails for nothing but a division by 0, and where it succeeds
    exactly those names are defined that the check has told. If it does not pass, the evaluation
    fails for an undefined variable or for a division by 0. Without a division, an evaluation
    succeeds if and only if the check passes. -/
theorem eval_of_defines (toVariables : expression.AssignsVariables) (vars : Variables) :
    (∀ known, expression.defines? vars.defined = some known →
      (∃ value after, expression.eval vars = .ok value after ∧ after.defined = known) ∨
        ∃ after, expression.eval vars = .error (.fault .divisionByZero) after) ∧
      (expression.defines? vars.defined = none →
        ∃ after, expression.eval vars = .error (.fault .undefinedVariable) after ∨
          expression.eval vars = .error (.fault .divisionByZero) after) ∧
      (.arithmetic .divide ∉ expression.operators →
        ((∃ value after, expression.eval vars = .ok value after) ↔
          ∃ known, expression.defines? vars.defined = some known)) := by
  have foretold := foretells_eval toVariables id vars
  generalize expression.defines? vars.defined = checked at foretold ⊢
  generalize expression.eval vars = ended at foretold ⊢
  cases foretold with
  | defined value after =>
    refine ⟨fun known same => .inl ⟨value, after, rfl, Option.some.inj same⟩, ?_, ?_⟩
    · intro unforetold
      cases unforetold
    · exact fun _ => ⟨fun _ => ⟨_, rfl⟩, fun _ => ⟨_, _, rfl⟩⟩
  | undefined after =>
    refine ⟨?_, fun _ => ⟨after, .inl rfl⟩, fun _ => ⟨?_, ?_⟩⟩
    · intro known passes
      cases passes
    · rintro ⟨_, _, succeeds⟩
      cases succeeds
    · rintro ⟨_, passes⟩
      cases passes
  | divided divides _ after =>
    exact ⟨fun _ _ => .inr ⟨after, rfl⟩, fun _ => ⟨after, .inr rfl⟩, fun undivided => absurd divides undivided⟩

/-- The expression `(x = y) * x`. -/
def assignedFirst : Expr :=
  .binary (.arithmetic .multiply) (.binary .assign (.identifier "x") (.identifier "y")) (.identifier "x")

/-- The expression `x * (x = y)`. -/
def readFirst : Expr :=
  .binary (.arithmetic .multiply) (.identifier "x") (.binary .assign (.identifier "x") (.identifier "y"))

/-- Where only `y` is defined, `(x = y) * x` has a value and defines `x`, and `x * (x = y)` has
    none: the left operand is read first. -/
theorem eval_of_defines_product :
    (∃ value after, assignedFirst.eval ⟨[("y", 3)]⟩ = .ok value after ∧ after.defined = {"x", "y"}) ∧
      ∃ after, readFirst.eval ⟨[("y", 3)]⟩ = .error (.fault .undefinedVariable) after ∨
        readFirst.eval ⟨[("y", 3)]⟩ = .error (.fault .divisionByZero) after := by
  have passes : assignedFirst.defines? (Variables.defined ⟨[("y", 3)]⟩) = some {"x", "y"} := by decide
  have refused : readFirst.defines? (Variables.defined ⟨[("y", 3)]⟩) = none := by decide
  have toVariables : assignedFirst.AssignsVariables := ⟨trivial, trivial⟩
  have toVariables' : readFirst.AssignsVariables := ⟨trivial, trivial⟩
  obtain ⟨tells, _, succeeds⟩ := eval_of_defines toVariables ⟨[("y", 3)]⟩
  obtain ⟨_, fails, _⟩ := eval_of_defines toVariables' ⟨[("y", 3)]⟩
  obtain ⟨value, after, done⟩ := (succeeds (by decide)).2 ⟨_, passes⟩
  refine ⟨?_, fails refused⟩
  rcases tells _ passes with told | ⟨_, divided⟩
  · exact told
  · rw [done] at divided
    cases divided

end Expr

end LineBasic
