import Mathlib
import LineBasic.Expr.Basic
import LineBasic.Token.Basic

/-!
The grammar of expressions, on its own. Level 0 holds the whole expressions, 1 the
sums, 2 the products and 3 the terms, and an expression of a level is also one of
every lower level (`Derives.lower`). Sums and products group to the left, and
assignments to the right. An operator of precedence `n` makes an expression of the
level `n - 1` (`Derives.join`).
-/
namespace LineBasic

theorem Token.isSign_iff {token : Token} {sign : String} :
    token.isSign sign = true ↔ token.kind = .operator ∧ token.text = sign := by
  simp [isSign]

/-- The tokens are a writing of the expression, at a level of the grammar. -/
inductive Derives : Nat → List Token → Expr → Prop
  | identifier {word : Token} (kind : word.kind = .word) (free : word.text ∉ reserved) :
      Derives 3 [word] (.identifier word.text)
  | numeral {number : Token} {value : Int} (kind : number.kind = .number)
      (denotes : Decimal.readLiteral number.text = .ok value) : Derives 3 [number] (.constant value)
  | negative {minus number : Token} {value : Int} (sign : minus.isSign "-" = true) (kind : number.kind = .number)
      (denotes : Decimal.readLiteral ("-" ++ number.text) = .ok value) : Derives 3 [minus, number] (.constant value)
  | bracketed {opening closing : Token} {tokens : List Token} {inner : Expr} (opens : opening.isSign "(" = true)
      (whole : Derives 0 tokens inner) (closes : closing.isSign ")" = true) :
      Derives 3 (opening :: tokens ++ [closing]) inner
  | ofTerm {tokens : List Token} {term : Expr} (derived : Derives 3 tokens term) : Derives 2 tokens term
  | product {sign : Token} {operation : Arithmetic} {before after : List Token} {left right : Expr}
      (first : Derives 2 before left) (multiplies : operation = .multiply ∨ operation = .divide)
      (joins : sign.isSign (Operator.arithmetic operation).sign = true) (second : Derives 3 after right) :
      Derives 2 (before ++ sign :: after) (.binary (.arithmetic operation) left right)
  | ofProduct {tokens : List Token} {product : Expr} (derived : Derives 2 tokens product) : Derives 1 tokens product
  | sum {sign : Token} {operation : Arithmetic} {before after : List Token} {left right : Expr}
      (first : Derives 1 before left) (adds : operation = .add ∨ operation = .subtract)
      (joins : sign.isSign (Operator.arithmetic operation).sign = true) (second : Derives 2 after right) :
      Derives 1 (before ++ sign :: after) (.binary (.arithmetic operation) left right)
  | ofSum {tokens : List Token} {sum : Expr} (derived : Derives 1 tokens sum) : Derives 0 tokens sum
  | assignment {sign : Token} {before after : List Token} {left right : Expr}
      (first : Derives 1 before left) (joins : sign.isSign Operator.assign.sign = true)
      (second : Derives 0 after right) :
      Derives 0 (before ++ sign :: after) (.binary .assign left right)

namespace Derives

theorem le_three {level : Nat} {tokens : List Token} {expression : Expr} (derived : Derives level tokens expression) :
    level ≤ 3 := by
  cases derived <;> omega

/-- An expression of a level is one of every lower level. -/
theorem lower {level : Nat} {tokens : List Token} {expression : Expr} (derived : Derives level tokens expression)
    {lower : Nat} (below : lower ≤ level) : Derives lower tokens expression := by
  have bound := derived.le_three
  have step : ∀ n, n < 3 → Derives (n + 1) tokens expression → Derives n tokens expression := by
    intro n inside upper
    rcases n with _ | _ | _ | n
    · exact .ofSum upper
    · exact .ofProduct upper
    · exact .ofTerm upper
    · omega
  induction level, below using Nat.le_induction with
  | base => exact derived
  | succ n _ ih => exact ih (step n (by omega) derived) (by omega)

theorem isEnding_eq_false {level : Nat} {tokens : List Token} {expression : Expr}
    (derived : Derives level tokens expression) : ∀ token ∈ tokens, token.isEnding = false := by
  have ofKind : ∀ {token : Token} {kind : TokenKind}, token.kind = kind → kind ≠ .ending → token.isEnding = false := by
    intro token kind same other
    simp [Token.isEnding, same, other]
  have ofSign : ∀ {token : Token} {sign : String}, token.isSign sign = true → token.isEnding = false :=
    fun signed => ofKind (Token.isSign_iff.1 signed).1 (by simp)
  induction derived with
  | identifier kind free => simpa using ofKind kind (by simp)
  | numeral kind denotes => simpa using ofKind kind (by simp)
  | negative sign kind denotes => simpa using ⟨ofSign sign, ofKind kind (by simp)⟩
  | bracketed opens whole closes ih =>
    intro token member
    rcases List.mem_append.1 member with member | member
    · rcases List.mem_cons.1 member with rfl | member
      · exact ofSign opens
      · exact ih token member
    · rw [List.mem_singleton.1 member]
      exact ofSign closes
  | ofTerm _ ih | ofProduct _ ih | ofSum _ ih => exact ih
  | product _ _ joins _ first second | sum _ _ joins _ first second | assignment _ joins _ first second =>
    intro token member
    rcases List.mem_append.1 member with member | member
    · exact first token member
    · rcases List.mem_cons.1 member with rfl | member
      · exact ofSign joins
      · exact second token member

end Derives

namespace Operator

/-- The level of what may stand on the left of an operator. -/
def leftLevel : Operator → Nat
  | .assign => 1
  | .arithmetic .add | .arithmetic .subtract => 1
  | .arithmetic .multiply | .arithmetic .divide => 2

/-- The level of what may stand on the right of an operator. -/
def rightLevel : Operator → Nat
  | .assign => 0
  | .arithmetic .add | .arithmetic .subtract => 2
  | .arithmetic .multiply | .arithmetic .divide => 3

theorem ofSign?_eq_some_iff {text : String} {operator : Operator} :
    ofSign? text = some operator ↔ text = operator.sign := by
  constructor
  · intro found
    exact (beq_iff_eq.1 (List.find?_some (p := fun other : Operator => other.sign == text) found)).symm
  · rintro rfl
    rcases operator with _ | (_ | _ | _ | _) <;> decide

end Operator

theorem Token.operator?_eq_some_iff {token : Token} {operator : Operator} :
    token.operator? = some operator ↔ token.isSign operator.sign = true := by
  rw [isSign_iff, operator?]
  split_ifs with kind
  · simp [kind, Operator.ofSign?_eq_some_iff]
  · simp [kind]

/-- Two expressions joined by an operator are of the level just below its
    precedence. -/
theorem Derives.join {sign : Token} {operator : Operator} {before after : List Token} {left right : Expr}
    (first : Derives operator.leftLevel before left) (joins : sign.operator? = some operator)
    (second : Derives operator.rightLevel after right) :
    Derives (operator.precedence - 1) (before ++ sign :: after) (.binary operator left right) := by
  rw [Token.operator?_eq_some_iff] at joins
  rcases operator with _ | (_ | _ | _ | _)
  · exact .assignment first joins second
  · exact .sum first (.inl rfl) joins second
  · exact .sum first (.inr rfl) joins second
  · exact .product first (.inl rfl) joins second
  · exact .product first (.inr rfl) joins second

end LineBasic
