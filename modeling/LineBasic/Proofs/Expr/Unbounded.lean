import Mathlib
import LineBasic.Expr.Eval

/-!
Wrapping once at the end. Sums, differences and products may be wrapped in between or
not, since wrapping does not change what they are modulo 2^32 (`wrap_compute`). So an
expression without a division is evaluated over unbounded integers as it is over
values: what it comes to and what it assigns differ by wrapping only, and it fails in
the same way (`eval_eq_wrapped`).
-/
namespace LineBasic

namespace Word

theorem wrap_modEq (n : Int) : wrap n ≡ n [ZMOD 4294967296] := by
  rw [wrap_eq_bmod]
  exact Int.bmod_emod

/-- Congruent integers are wrapped to the same value. -/
theorem wrap_congr {m n : Int} (congruent : m ≡ n [ZMOD 4294967296]) : wrap m = wrap n := by
  have residues : (m % (4294967296 : Nat)).bmod 4294967296 = (n % (4294967296 : Nat)).bmod 4294967296 :=
    congrArg (Int.bmod · 4294967296) congruent
  rwa [Int.emod_bmod, Int.emod_bmod, ← wrap_eq_bmod, ← wrap_eq_bmod] at residues

/-- The value of an integer is the only one congruent to it. -/
theorem eq_wrap_iff {value n : Int} : value = wrap n ↔ InRange value ∧ value ≡ n [ZMOD 4294967296] := by
  constructor
  · rintro rfl
    exact ⟨wrap_inRange n, wrap_modEq n⟩
  · rintro ⟨inside, congruent⟩
    rw [← wrap_of_inRange inside]
    exact wrap_congr congruent

end Word

/-- Computes with two integers, however far the result is. -/
def Arithmetic.computeExactly : Arithmetic → Int → Int → Except Fault Int
  | .add, left, right => .ok (left + right)
  | .subtract, left, right => .ok (left - right)
  | .multiply, left, right => .ok (left * right)
  | .divide, left, right => Word.divide left right

/-- Wrapping the operands does not change the value of a result, but for a quotient. -/
theorem Arithmetic.compute_wrap {operation : Arithmetic} (undivided : operation ≠ .divide) (left right : Int) :
    operation.compute (Word.wrap left) (Word.wrap right) = (operation.computeExactly left right).map Word.wrap := by
  have one := Word.wrap_modEq left
  have other := Word.wrap_modEq right
  cases operation with
  | add => simp only [compute, computeExactly, Except.map, Word.wrap_congr (one.add other)]
  | subtract => simp only [compute, computeExactly, Except.map, Word.wrap_congr (one.sub other)]
  | multiply => simp only [compute, computeExactly, Except.map, Word.wrap_congr (one.mul other)]
  | divide => exact absurd rfl undivided

namespace Variables

/-- The same names, each with its value wrapped. -/
def wrapped (vars : Variables) : Variables := ⟨vars.entries.map fun entry => (entry.1, Word.wrap entry.2)⟩

theorem get?_wrapped (vars : Variables) (name : String) : vars.wrapped.get? name = (vars.get? name).map Word.wrap := by
  obtain ⟨entries⟩ := vars
  simp only [wrapped, get?]
  induction entries with
  | nil => rfl
  | cons entry later ih =>
    rw [List.map_cons, List.lookup_cons, List.lookup_cons]
    cases name == entry.1 with
    | true => rfl
    | false => exact ih

theorem wrapped_set (vars : Variables) (name : String) (value : Int) :
    (vars.set name value).wrapped = vars.wrapped.set name (Word.wrap value) := by
  obtain ⟨entries⟩ := vars
  simp only [wrapped, set, mk.injEq]
  induction entries with
  | nil => rfl
  | cons entry later ih =>
    simp only [place, List.map_cons]
    split_ifs
    · rfl
    · rw [List.map_cons, ih]

/-- Values are as they are wrapped. -/
theorem wrapped_of_inRange {vars : Variables} (inside : ∀ entry ∈ vars.entries, Word.InRange entry.2) :
    vars.wrapped = vars := by
  obtain ⟨entries⟩ := vars
  simp only [wrapped, mk.injEq]
  refine (List.map_congr_left fun entry member => ?_).trans (List.map_id entries)
  rw [Word.wrap_of_inRange (inside entry member)]
  rfl

end Variables

namespace Expr

/-- The value of an expression over unbounded integers: nothing is wrapped, neither on
    the way nor where it is assigned. -/
def evalExactly : Expr → Step Variables Int
  | .constant value => return value
  | .identifier name => Variables.read name
  | .binary .assign (.identifier name) source => do
    let value ← source.evalExactly
    Variables.assign name value
    return value
  | .binary .assign _ _ => Step.fail .notAssignable
  | .binary (.arithmetic operation) left right => do
    let first ← left.evalExactly
    let second ← right.evalExactly
    Step.ofExcept ((operation.computeExactly first second).mapError Stop.fault)

/-- Every constant is a value, and nothing is divided. -/
def Undivided : Expr → Prop
  | .constant value => Word.InRange value
  | .identifier _ => True
  | .binary operator left right => operator ≠ .arithmetic .divide ∧ left.Undivided ∧ right.Undivided

/-- What an evaluation comes to, with the answer and the variables wrapped. -/
def wrapped : EStateM.Result Stop Variables Int → EStateM.Result Stop Variables Int
  | .ok value after => .ok (Word.wrap value) after.wrapped
  | .error stop after => .error stop after.wrapped

variable {expression : Expr} {vars : Variables}

theorem eval_wrapped (undivided : expression.Undivided) (vars : Variables) :
    expression.eval vars.wrapped = wrapped (expression.evalExactly vars) := by
  induction expression using Expr.eval.induct generalizing vars with
  | case1 value =>
    have inside : Word.InRange value := undivided
    rw [eval, evalExactly, Step.pure_apply, Step.pure_apply, wrapped, Word.wrap_of_inRange inside]
  | case2 name =>
    simp only [eval, evalExactly, Variables.read, Variables.get?_wrapped]
    cases vars.get? name <;> rfl
  | case3 name source ih =>
    simp only [eval, evalExactly, Step.bind_apply, ih undivided.2.2]
    cases source.evalExactly vars with
    | error stop after => rfl
    | ok value after =>
      simp only [wrapped, Variables.assign, Step.pure_apply, Variables.wrapped_set]
  | case4 target source other =>
    cases target with
    | identifier name => exact absurd rfl (other name)
    | constant value => rfl
    | binary operator left right => rfl
  | case5 operation left right first second =>
    obtain ⟨free, onLeft, onRight⟩ := undivided
    have multiplies : operation ≠ .divide := fun divides => free (congrArg _ divides)
    simp only [eval, evalExactly, Step.bind_apply, first onLeft]
    cases left.evalExactly vars with
    | error stop after => rfl
    | ok one middle =>
      simp only [wrapped, second onRight]
      cases right.evalExactly middle with
      | error stop after => rfl
      | ok other after =>
        simp only [Arithmetic.computeStep, Arithmetic.compute_wrap multiplies]
        cases operation.computeExactly one other <;> rfl

/-- An expression without a division comes to the same over values and over unbounded
    integers, with what it answers and what it leaves assigned wrapped at the end. The
    value that an integer is wrapped to is the only one congruent to it. -/
theorem eval_wraps_once (undivided : expression.Undivided) (inside : ∀ entry ∈ vars.entries, Word.InRange entry.2) :
    (match expression.eval vars, expression.evalExactly vars with
      | .ok value after, .ok exact reached => value = Word.wrap exact ∧ after = reached.wrapped
      | .error stop after, .error cause reached => stop = cause ∧ after = reached.wrapped
      | _, _ => False) ∧
      ∀ n value : Int, value = Word.wrap n ↔ Word.InRange value ∧ value ≡ n [ZMOD 2 ^ 32] := by
  refine ⟨?_, fun n value => Word.eq_wrap_iff⟩
  have same := eval_wrapped undivided vars
  rw [Variables.wrapped_of_inRange inside] at same
  rw [same]
  cases expression.evalExactly vars with
  | ok exact reached => exact ⟨rfl, rfl⟩
  | error stop reached => exact ⟨rfl, rfl⟩

/-- The expression `(y = x + 2147483647) * y`. -/
def overflowing : Expr :=
  .binary (.arithmetic .multiply)
    (.binary .assign (.identifier "y") (.binary (.arithmetic .add) (.identifier "x") (.constant 2147483647)))
    (.identifier "y")

/-- Where `x` is 1 the sum is wrapped before it is assigned, and the product comes to 0,
    to which 2^62 is wrapped. -/
theorem eval_wraps_once_overflowing :
    ∃ after reached, overflowing.eval ⟨[("x", 1)]⟩ = .ok 0 after ∧
      overflowing.evalExactly ⟨[("x", 1)]⟩ = .ok (2 ^ 62) reached ∧ after = reached.wrapped ∧
      after.get? "y" = some (-2147483648) ∧ reached.get? "y" = some 2147483648 := by
  have undivided : overflowing.Undivided :=
    ⟨by decide, ⟨by decide, trivial, by decide, trivial, show Word.InRange 2147483647 by decide⟩, trivial⟩
  have inside : ∀ entry ∈ (⟨[("x", 1)]⟩ : Variables).entries, Word.InRange entry.2 := by decide
  have wraps := (eval_wraps_once undivided inside).1
  have evaluated : overflowing.eval ⟨[("x", 1)]⟩ = .ok 0 ⟨[("x", 1), ("y", -2147483648)]⟩ := rfl
  have exact : overflowing.evalExactly ⟨[("x", 1)]⟩ = .ok (2 ^ 62) ⟨[("x", 1), ("y", 2147483648)]⟩ := rfl
  rw [evaluated, exact] at wraps
  exact ⟨_, _, evaluated, exact, wraps.2, rfl, rfl⟩

end Expr

end LineBasic
