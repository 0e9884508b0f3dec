import LineBasic.Fault

/-!
The values of the language: the integers that a signed word of 32 bits holds.
Results that leave the range wrap around it, and division rounds toward zero.
-/
namespace LineBasic.Word

def lowest : Int := -2147483648
def highest : Int := 2147483647

/-- The integers that are values. -/
def InRange (n : Int) : Prop := lowest ≤ n ∧ n ≤ highest

instance (n : Int) : Decidable (InRange n) := inferInstanceAs (Decidable (_ ∧ _))

/-- The low 32 bits of an integer. The bits of a negative one are those of its
    complement, turned over. -/
def lowBits : Int → Nat
  | .ofNat n => n &&& 0xFFFFFFFF
  | .negSucc n => (n &&& 0xFFFFFFFF) ^^^ 0xFFFFFFFF

/-- The value with the low 32 bits of `n`, of which the highest one counts negative. -/
def wrap (n : Int) : Int :=
  let bits := lowBits n
  if bits &&& 0x80000000 = 0 then bits else bits - 0x100000000

/-- To turn 32 bits over is to take them from the highest number that they can be. -/
theorem turnedBits_eq {bits : Nat} (few : bits < 4294967296) : bits ^^^ 0xFFFFFFFF = 0xFFFFFFFF - bits := by
  apply Nat.eq_of_testBit_eq
  intro i
  have low := Nat.testBit_two_pow_sub_succ (n := 32) few i
  have all : Nat.testBit 0xFFFFFFFF i = decide (i < 32) := Nat.testBit_two_pow_sub_one 32 i
  rw [show 0xFFFFFFFF - bits = 2 ^ 32 - (bits + 1) by omega, low, Nat.testBit_xor, all]
  by_cases within : i < 32
  · simp [within]
  · have wider : bits < 2 ^ i :=
      Nat.lt_of_lt_of_le (m := 2 ^ 32) few (Nat.pow_le_pow_right (by decide) (Nat.le_of_not_lt within))
    simp [within, Nat.testBit_lt_two_pow wider]

/-- The low bits are the remainder by 2^32. -/
theorem lowBits_eq (n : Int) : (lowBits n : Int) = n % 4294967296 := by
  have masked (m : Nat) : m &&& 0xFFFFFFFF = m % 4294967296 := Nat.and_two_pow_sub_one_eq_mod m 32
  cases n with
  | ofNat m =>
    rw [lowBits, masked]
    rfl
  | negSucc m =>
    have few : m % 4294967296 < 4294967296 := Nat.mod_lt m (by decide)
    rw [lowBits, masked, turnedBits_eq few]
    omega

/-- The highest of 32 bits is set in the upper half of what they can be. -/
theorem highBit_eq_zero_iff {bits : Nat} (few : bits < 4294967296) : bits &&& 0x80000000 = 0 ↔ bits < 2147483648 := by
  have tested (i : Nat) : (bits &&& 0x80000000).testBit i = (bits.testBit i && decide (31 = i)) := by
    rw [Nat.testBit_and, show 0x80000000 = 2 ^ 31 from rfl, Nat.testBit_two_pow]
  have highest : bits.testBit 31 = decide (bits / 2147483648 % 2 = 1) := Nat.testBit_eq_decide_div_mod_eq
  constructor
  · intro unset
    have bit : bits / 2147483648 % 2 = 0 := by simpa [unset, highest] using tested 31
    omega
  · intro lower
    have bit : bits / 2147483648 % 2 = 0 := by omega
    apply Nat.eq_of_testBit_eq
    intro i
    rw [tested, Nat.zero_testBit]
    by_cases same : 31 = i
    · subst same
      simp [highest, bit]
    · simp [same]

/-- To wrap is to take the remainder by 2^32 that lies nearest to 0. -/
theorem wrap_eq_bmod (n : Int) : wrap n = Int.bmod n 4294967296 := by
  have bits := lowBits_eq n
  have few : lowBits n < 4294967296 := by omega
  simp only [wrap, highBit_eq_zero_iff few, Int.bmod_def]
  by_cases lower : lowBits n < 2147483648
  · rw [if_pos lower, if_pos (by omega)]
    omega
  · rw [if_neg lower, if_neg (by omega)]
    omega

theorem wrap_inRange (n : Int) : InRange (wrap n) := by
  rw [wrap_eq_bmod]
  unfold InRange lowest highest
  have := Int.le_bmod (x := n) (m := 4294967296) (by decide)
  have := Int.bmod_lt (x := n) (m := 4294967296) (by decide)
  omega

theorem wrap_of_inRange {n : Int} (inside : InRange n) : wrap n = n := by
  unfold InRange lowest highest at inside
  rw [wrap_eq_bmod]
  exact Int.bmod_eq_of_le (by omega) (by omega)

/-- The quotient of two integers: that of their sizes, negative where they differ in
    sign. It is not wrapped. -/
def divide (left right : Int) : Except Fault Int :=
  if right = 0 then .error .divisionByZero
  else
    let quotient : Int := ↑(left.natAbs / right.natAbs)
    .ok (if left < 0 ↔ right < 0 then quotient else -quotient)

/-- The quotient is rounded toward zero. -/
theorem divide_of_ne_zero (left : Int) {right : Int} (nonzero : right ≠ 0) :
    divide left right = .ok (left.tdiv right) := by
  rw [divide, if_neg nonzero]
  cases left <;> cases right <;>
    simp only [Int.negSucc_lt_zero, Int.ofNat_eq_natCast, Int.not_ofNat_neg, iff_true, iff_false, not_true_eq_false,
      ↓reduceIte] <;>
    rfl

end LineBasic.Word
