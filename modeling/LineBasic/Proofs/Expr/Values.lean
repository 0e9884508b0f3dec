import Mathlib
import LineBasic.Expr.Eval
import LineBasic.Proofs.Expr.Grammar
import LineBasic.Proofs.Number.Decimal
import LineBasic.Proofs.Step.Keeps
import LineBasic.Proofs.Token.Lexed

/-!
What expressions and variables are made of: names that can name a variable, and
values of the language. An expression that a text derives is well formed
(`Derives.wellFormed`), and evaluating a well-formed expression keeps the variables
well formed, however it ends (`Expr.keeps_eval`).
-/
namespace LineBasic

namespace Variables

/-- Every name can name a variable, and everything stored is a value. -/
def WellFormed (vars : Variables) : Prop :=
  ∀ entry ∈ vars.entries, isIdentifier entry.1 = true ∧ Word.InRange entry.2

theorem wellFormed_empty : WellFormed {} := fun _ member => absurd member List.not_mem_nil

/-- What stands in the list afterwards is the new entry or stood there before. -/
theorem mem_of_mem_place {name : String} {value : Int} {entries : List (String × Int)} {entry : String × Int}
    (member : entry ∈ place name value entries) : entry = (name, value) ∨ entry ∈ entries := by
  induction entries with
  | nil => exact .inl (List.mem_singleton.1 member)
  | cons first later ih =>
    unfold place at member
    split_ifs at member with here
    · exact (List.mem_cons.1 member).imp_right (List.mem_cons_of_mem _)
    · rcases List.mem_cons.1 member with rfl | member
      · exact .inr List.mem_cons_self
      · exact (ih member).imp_right (List.mem_cons_of_mem _)

theorem WellFormed.set {vars : Variables} (wellFormed : vars.WellFormed) {name : String}
    (named : isIdentifier name = true) {value : Int} (inside : Word.InRange value) :
    (vars.set name value).WellFormed := by
  intro entry member
  rcases mem_of_mem_place member with rfl | member
  · exact ⟨named, inside⟩
  · exact wellFormed entry member

theorem keeps_read (name : String) : Step.Keeps WellFormed Word.InRange (read name) := by
  intro vars wellFormed
  unfold read
  cases found : vars.get? name with
  | none => exact wellFormed
  | some value =>
    obtain ⟨before, after, split, _⟩ := List.lookup_eq_some_iff.1 found
    have member : (name, value) ∈ vars.entries := split ▸ List.mem_append_right _ List.mem_cons_self
    exact ⟨(wellFormed _ member).2, wellFormed⟩

theorem keeps_assign {name : String} (named : isIdentifier name = true) {value : Int} (inside : Word.InRange value) :
    Step.Keeps WellFormed (fun _ => True) (assign name value) :=
  fun _ wellFormed => ⟨trivial, wellFormed.set named inside⟩

end Variables

/-- Every name in the expression can name a variable, and every constant is a value. -/
def Expr.WellFormed : Expr → Prop
  | .constant value => Word.InRange value
  | .identifier name => isIdentifier name = true
  | .binary _ left right => left.WellFormed ∧ right.WellFormed

/-- What the tokens of a text derive is well formed. -/
theorem Derives.wellFormed {level : Nat} {tokens : List Token} {expression : Expr}
    (derived : Derives level tokens expression) (lexed : ∀ token ∈ tokens, token.Lexed) : expression.WellFormed := by
  induction derived with
  | identifier kind free => exact (lexed _ List.mem_cons_self).isIdentifier kind free
  | numeral _ denotes | negative _ _ denotes => exact Decimal.readLiteral_inRange denotes
  | bracketed _ _ _ ih =>
    exact ih fun token member => lexed token (List.mem_append_left _ (List.mem_cons_of_mem _ member))
  | ofTerm _ ih | ofProduct _ ih | ofSum _ ih => exact ih lexed
  | product _ _ _ _ first second | sum _ _ _ _ first second | assignment _ _ _ first second =>
    constructor
    · exact first fun token member => lexed token (List.mem_append_left _ member)
    · exact second fun token member => lexed token (List.mem_append_right _ (List.mem_cons_of_mem _ member))

namespace Expr

theorem keeps_computeStep {holds : Variables → Prop} (operation : Arithmetic) (left right : Int) :
    Step.Keeps holds Word.InRange (operation.computeStep left right) := by
  have wraps : ∀ value, operation.compute left right = .ok value → Word.InRange value := by
    intro value computed
    cases operation with
    | divide =>
      unfold Arithmetic.compute at computed
      cases divided : Word.divide left right with
      | error cause => simp [divided, Except.map] at computed
      | ok quotient =>
        simp only [divided, Except.map, Except.ok.injEq] at computed
        exact computed ▸ Word.wrap_inRange quotient
    | _ => exact Except.ok.inj computed ▸ Word.wrap_inRange _
  unfold Arithmetic.computeStep
  cases computed : operation.compute left right with
  | error cause => exact Step.keeps_throw _
  | ok value => exact Step.keeps_pure (wraps value computed)

/-- Evaluating a well-formed expression keeps the variables well formed, and gives a
    value. -/
theorem keeps_eval {expression : Expr} (wellFormed : expression.WellFormed) :
    Step.Keeps Variables.WellFormed Word.InRange expression.eval := by
  induction expression with
  | constant value => exact Step.keeps_pure wellFormed
  | identifier name => exact Variables.keeps_read name
  | binary operator left right first second =>
    obtain ⟨leftFormed, rightFormed⟩ := wellFormed
    cases operator with
    | arithmetic operation =>
      unfold eval
      refine (first leftFormed).bind fun one _ => (second rightFormed).bind fun other _ => ?_
      exact keeps_computeStep operation one other
    | assign =>
      cases left with
      | identifier name =>
        unfold eval
        refine (second rightFormed).bind fun value inside => ?_
        exact (Variables.keeps_assign leftFormed inside).bind fun _ _ => Step.keeps_pure inside
      | constant | binary => exact Step.keeps_fail _

end Expr

end LineBasic
