import Mathlib
import LineBasic.Expr.Eval

/-!
Division. The quotient is the one whose remainder is smaller than the divisor and has the
sign of the dividend (`Word.divide_eq_ok_iff`). Of two values it is a value again, unless
the lowest one is divided by -1 (`Word.tdiv_inRange`), where it is wrapped to the lowest one.
So an expression comes to the quotient of its operands but for that one pair, and it fails
for a divisor of 0, once both operands have been evaluated (`Expr.eval_quotient`).
-/
namespace LineBasic

namespace Word

variable {left right quotient : Int}

/-- The quotient is rounded toward zero: what is left over is smaller than the divisor, and
    it is 0 or has the sign of what was divided. -/
def Truncates (left right quotient : Int) : Prop :=
  ∃ remainder, left = quotient * right + remainder ∧ |remainder| < |right| ∧
    (remainder = 0 ∨ remainder.sign = left.sign)

theorem truncates_tdiv (nonzero : right ≠ 0) (left : Int) : Truncates left right (left.tdiv right) := by
  have whole := Int.tmod_add_mul_tdiv left right
  have smaller : (left.tmod right).natAbs < right.natAbs := by
    rw [Int.natAbs_tmod]
    exact Nat.mod_lt _ (Int.natAbs_pos.2 nonzero)
  refine ⟨left.tmod right, ?_, ?_, ?_⟩
  · rw [Int.mul_comm]
    omega
  · rw [Int.abs_eq_natAbs, Int.abs_eq_natAbs]
    exact_mod_cast smaller
  · have sign := Int.sign_tmod left right
    by_cases exact : right ∣ left
    · rw [if_pos exact] at sign
      exact .inl (Int.sign_eq_zero_iff_zero.1 sign)
    · rw [if_neg exact] at sign
      exact .inr sign

/-- No other integer is the quotient. -/
theorem Truncates.eq_tdiv (truncates : Truncates left right quotient) : quotient = left.tdiv right := by
  obtain ⟨remainder, whole, smaller, sign⟩ := truncates
  have nonzero : right ≠ 0 := by
    rintro rfl
    exact absurd smaller (by simp)
  rw [Int.abs_eq_natAbs, Int.abs_eq_natAbs] at smaller
  rw [Int.mul_comm] at whole
  rcases le_total 0 left with positive | negative
  · have same : 0 ≤ remainder := by
      rcases sign with rfl | same
      · exact le_rfl
      · rwa [← Int.sign_nonneg_iff, same, Int.sign_nonneg_iff]
    exact ((Int.tdiv_tmod_unique positive nonzero).2 ⟨by omega, same, by omega⟩).1.symm
  · have same : remainder ≤ 0 := by
      rcases sign with rfl | same
      · exact le_rfl
      · rwa [← Int.sign_nonpos_iff, same, Int.sign_nonpos_iff]
    exact ((Int.tdiv_tmod_unique' negative nonzero).2 ⟨by omega, by omega, same⟩).1.symm

/-- Division gives the quotient that is rounded toward zero, and no other. -/
theorem divide_eq_ok_iff (nonzero : right ≠ 0) : divide left right = .ok quotient ↔ Truncates left right quotient := by
  rw [divide_of_ne_zero left nonzero, Except.ok.injEq]
  constructor
  · rintro rfl
    exact truncates_tdiv nonzero left
  · exact fun truncates => truncates.eq_tdiv.symm

/-- The quotient of a value is a value, but for the lowest one divided by -1. -/
theorem tdiv_inRange (inside : InRange left) (other : ¬ (left = lowest ∧ right = -1)) : InRange (left.tdiv right) := by
  unfold InRange lowest highest at *
  by_cases one : right.natAbs ≤ 1
  · obtain rfl | rfl | rfl : right = 0 ∨ right = 1 ∨ right = -1 := by omega
    · rw [Int.tdiv_zero]
      omega
    · rwa [Int.tdiv_one]
    · rw [Int.tdiv_neg, Int.tdiv_one]
      omega
  · have half : (left.tdiv right).natAbs ≤ left.natAbs / 2 := by
      rw [Int.natAbs_tdiv]
      exact Nat.div_le_div_left (by omega) (by decide)
    omega

theorem wrap_tdiv (inside : InRange left) (right : Int) :
    wrap (left.tdiv right) = if left = lowest ∧ right = -1 then lowest else left.tdiv right := by
  split_ifs with overflows
  · obtain ⟨rfl, rfl⟩ := overflows
    decide
  · exact wrap_of_inRange (tdiv_inRange inside overflows)

end Word

namespace Expr

variable {vars middle after : Variables} {one other : Expr} {left right : Int}

/-- The expression is a constant, or a variable, with the value. -/
inductive Atom (vars : Variables) : Expr → Int → Prop
  | constant (value : Int) : Atom vars (.constant value) value
  | identifier {name : String} {value : Int} (defined : vars.get? name = some value) :
      Atom vars (.identifier name) value

theorem Atom.eval_eq {expression : Expr} {value : Int} (atom : Atom vars expression value) :
    expression.eval vars = .ok value vars := by
  cases atom with
  | constant => rfl
  | identifier defined => rw [eval, Variables.read, defined]

/-- Both operands are evaluated, the left one first, and then the one is divided by the other. -/
theorem eval_quotient (first : one.eval vars = .ok left middle) (second : other.eval middle = .ok right after) :
    (binary (.arithmetic .divide) one other).eval vars =
      if right = 0 then .error (.fault .divisionByZero) after else .ok (Word.wrap (left.tdiv right)) after := by
  simp only [eval, Step.bind_apply, first, second]
  by_cases zero : right = 0
  · simp only [Arithmetic.computeStep, Arithmetic.compute, Word.divide, if_pos zero]
    rfl
  · simp only [Arithmetic.computeStep, Arithmetic.compute, Word.divide_of_ne_zero left zero, if_neg zero]
    rfl

/-- Division gives the quotient that is rounded toward zero. Where the operands are constants
    or variables with values of the language, this is what an expression comes to, unless the
    lowest value is divided by -1, which gives the lowest value. A division by 0 fails after
    both operands have been evaluated. -/
theorem eval_quotient_truncates (left right : Int) :
    (right ≠ 0 → ∀ quotient, Word.divide left right = .ok quotient ↔ Word.Truncates left right quotient) ∧
      (right ≠ 0 → Word.InRange left → Word.InRange right → ∀ vars one other, Atom vars one left →
        Atom vars other right → ∃ quotient, Word.divide left right = .ok quotient ∧
          (binary (.arithmetic .divide) one other).eval vars =
            .ok (if left = -2147483648 ∧ right = -1 then -2147483648 else quotient) vars) ∧
      (right = 0 → ∀ vars middle after one other, eval one vars = .ok left middle →
        eval other middle = .ok right after →
          (binary (.arithmetic .divide) one other).eval vars = .error (.fault .divisionByZero) after) := by
  refine ⟨fun nonzero quotient => Word.divide_eq_ok_iff nonzero, ?_, ?_⟩
  · intro nonzero insideLeft _ vars one other first second
    refine ⟨left.tdiv right, Word.divide_of_ne_zero left nonzero, ?_⟩
    rw [eval_quotient first.eval_eq second.eval_eq, if_neg nonzero, Word.wrap_tdiv insideLeft, Word.lowest]
  · intro zero vars middle after one other first second
    rw [eval_quotient first second, if_pos zero]

/-- With the lowest value in `x` and -1 in `y`, the quotient is 2^31, and `x / y` comes to the
    lowest value; -7 / 2 comes to -3. `(a = 1) / (b = 0)` assigns both variables and fails. -/
theorem eval_quotient_truncates_overflowing :
    Word.divide (-2147483648) (-1) = .ok 2147483648 ∧ Word.Truncates (-2147483648) (-1) 2147483648 ∧
      (binary (.arithmetic .divide) (.identifier "x") (.identifier "y")).eval ⟨[("x", -2147483648), ("y", -1)]⟩ =
        .ok (-2147483648) ⟨[("x", -2147483648), ("y", -1)]⟩ ∧
      (binary (.arithmetic .divide) (.constant (-7)) (.constant 2)).eval {} = .ok (-3) {} ∧
      (binary (.arithmetic .divide) (.binary .assign (.identifier "a") (.constant 1))
        (.binary .assign (.identifier "b") (.constant 0))).eval {} =
          .error (.fault .divisionByZero) ⟨[("a", 1), ("b", 0)]⟩ := by
  have divides : Word.divide (-2147483648) (-1) = .ok 2147483648 := by decide
  obtain ⟨rounded, comes, _⟩ := eval_quotient_truncates (-2147483648) (-1)
  obtain ⟨_, exact, _⟩ := eval_quotient_truncates (-7) 2
  obtain ⟨_, _, fails⟩ := eval_quotient_truncates 1 0
  have x : Atom ⟨[("x", -2147483648), ("y", -1)]⟩ (.identifier "x") (-2147483648) := .identifier rfl
  have y : Atom ⟨[("x", -2147483648), ("y", -1)]⟩ (.identifier "y") (-1) := .identifier rfl
  obtain ⟨_, _, lowest⟩ := comes (by decide) (by decide) (by decide) _ _ _ x y
  obtain ⟨quotient, divided, toward⟩ := exact (by decide) (by decide) (by decide) {} _ _ (.constant _) (.constant _)
  obtain rfl : quotient = -3 := by
    cases divided
    rfl
  exact ⟨divides, (rounded (by decide) _).1 divides, lowest, toward, fails rfl {} _ _ _ _ rfl rfl⟩

end Expr

end LineBasic
