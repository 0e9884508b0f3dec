import Mathlib
import LineBasic.Proofs.Expr.Effects

/-!
What evaluating an expression leaves alone. Variables frame others if none has become
undefined and only allowed names have changed (`Variables.Framed`). All variables that an
evaluation comes by, from the start to the end and also where it fails, frame those that
it started with, and only the names on the left of an assignment are allowed to change
(`Expr.Passes.framed`). Without brackets, such a name stands directly before the `=`
(`Derives.before_sign`).
-/
namespace LineBasic

namespace Variables

/-- What was defined is defined, and what is not as it was before has an allowed name. -/
structure Framed (allowed : String → Prop) (before after : Variables) : Prop where
  defined : ∀ name, before.isDefined name = true → after.isDefined name = true
  changed : ∀ name, after.get? name ≠ before.get? name → allowed name

variable {allowed more : String → Prop} {before middle after : Variables}

theorem Framed.refl (allowed : String → Prop) (vars : Variables) : Framed allowed vars vars :=
  ⟨fun _ defined => defined, fun _ changed => absurd rfl changed⟩

theorem Framed.trans (first : Framed allowed before middle) (second : Framed allowed middle after) :
    Framed allowed before after := by
  refine ⟨fun name defined => second.defined name (first.defined name defined), fun name changed => ?_⟩
  by_cases same : middle.get? name = before.get? name
  · exact second.changed name (same ▸ changed)
  · exact first.changed name same

theorem Framed.mono (framed : Framed allowed before after) (larger : ∀ name, allowed name → more name) :
    Framed more before after :=
  ⟨framed.defined, fun name changed => larger name (framed.changed name changed)⟩

/-- Giving one variable a value leaves the others. -/
theorem framed_set {name : String} (permitted : allowed name) (vars : Variables) (value : Int) :
    Framed allowed vars (vars.set name value) := by
  refine ⟨fun other defined => ?_, fun other changed => ?_⟩
  · unfold isDefined at defined ⊢
    rw [get?_set]
    split_ifs
    · rfl
    · exact defined
  · rw [get?_set] at changed
    by_cases same : other = name
    · exact same ▸ permitted
    · rw [if_neg same] at changed
      exact absurd rfl changed

end Variables

namespace Expr

/-- The names to which an evaluation may assign. An assignment to anything else than a
    variable fails before its source is evaluated. -/
def Assigns : Expr → String → Prop
  | .constant _, _ | .identifier _, _ => False
  | .binary .assign (.identifier target) source, name => name = target ∨ source.Assigns name
  | .binary .assign _ _, _ => False
  | .binary (.arithmetic _) left right, name => left.Assigns name ∨ right.Assigns name

/-- Variables that the evaluation of an expression comes by: those that it starts with,
    those that it leaves, and those in between. -/
inductive Passes : Expr → Variables → Variables → Prop
  | start (expression : Expr) (vars : Variables) : Passes expression vars vars
  | source {target : String} {source : Expr} {vars point : Variables} (within : Passes source vars point) :
      Passes (.binary .assign (.identifier target) source) vars point
  | assigned {target : String} {source : Expr} {vars after : Variables} {value : Int}
      (done : source.eval vars = .ok value after) :
      Passes (.binary .assign (.identifier target) source) vars (after.set target value)
  | left {operation : Arithmetic} {left right : Expr} {vars point : Variables} (within : Passes left vars point) :
      Passes (.binary (.arithmetic operation) left right) vars point
  | right {operation : Arithmetic} {left right : Expr} {vars middle point : Variables} {first : Int}
      (done : left.eval vars = .ok first middle) (within : Passes right middle point) :
      Passes (.binary (.arithmetic operation) left right) vars point

variable {expression : Expr} {vars point : Variables}

/-- However an evaluation ends, it has come by the variables that it leaves. -/
theorem passes_reached (expression : Expr) (vars : Variables) :
    expression.Passes vars (expression.eval.reached vars) := by
  induction expression generalizing vars with
  | constant value => exact .start _ _
  | identifier name =>
    have same : (eval (.identifier name)).reached vars = vars := ((leaves_read name) vars).reached rfl
    rw [same]
    exact .start _ _
  | binary operator left right first second =>
    cases operator with
    | assign =>
      cases left with
      | identifier target =>
        unfold eval
        cases done : right.eval vars with
        | ok value after =>
          rw [Step.reached_bind_of_ok done]
          exact .assigned done
        | error stop after =>
          rw [Step.reached_bind_of_error done, ← Step.reached_eq_of_error done]
          exact .source (second vars)
      | constant | binary => exact .start _ _
    | arithmetic operation =>
      unfold eval
      cases done : left.eval vars with
      | error stop after =>
        rw [Step.reached_bind_of_error done, ← Step.reached_eq_of_error done]
        exact .left (first vars)
      | ok value middle =>
        rw [Step.reached_bind_of_ok done]
        have computes : ∀ other, Step.Leaves (fun vars : Variables => vars) (operation.computeStep value other) :=
          fun other => Step.leaves_ofExcept _
        have same : (right.eval >>= operation.computeStep value).reached middle = right.eval.reached middle := by
          cases done' : right.eval middle with
          | error stop after => rw [Step.reached_bind_of_error done', Step.reached_eq_of_error done']
          | ok other after =>
            rw [Step.reached_bind_of_ok done', Step.reached_eq_of_ok done']
            exact (computes other after).reached rfl
        rw [same]
        exact .right done (second middle)

/-- All that an evaluation comes by frames what it started with. -/
theorem Passes.framed (passes : expression.Passes vars point) : vars.Framed expression.Assigns point := by
  induction expression generalizing vars point with
  | constant | identifier =>
    cases passes
    exact .refl _ _
  | binary operator left right first second =>
    cases passes with
    | start => exact .refl _ _
    | source within => exact (second within).mono fun name assigns => .inr assigns
    | @assigned target _ _ after value done =>
      have ended := passes_reached right vars
      rw [Step.reached_eq_of_ok done] at ended
      have before := (second ended).mono fun name assigns => (.inr assigns : name = target ∨ right.Assigns name)
      exact before.trans (Variables.framed_set (.inl rfl) after value)
    | left within => exact (first within).mono fun name assigns => .inl assigns
    | @right operation _ _ _ middle _ value done within =>
      have ended := passes_reached left vars
      rw [Step.reached_eq_of_ok done] at ended
      have before := (first ended).mono fun name assigns => (.inl assigns : left.Assigns name ∨ right.Assigns name)
      exact before.trans ((second within).mono fun name assigns => .inr assigns)

/-- Where nothing is assigned, the variables are the same afterwards. -/
theorem Pure.eq_of_eval (pure : expression.Pure) {after : Variables} {value : Int}
    (done : expression.eval vars = .ok value after) : after = vars := by
  rw [← Step.reached_eq_of_ok done]
  exact (pure.leaves_eval vars).reached rfl

/-- Where nothing is assigned, an evaluation comes by no other variables. -/
theorem Pure.eq_of_passes (pure : expression.Pure) (passes : expression.Passes vars point) : point = vars := by
  induction expression generalizing vars point with
  | constant | identifier =>
    cases passes
    rfl
  | binary operator left right first second =>
    obtain ⟨other, pureLeft, pureRight⟩ := pure
    cases passes with
    | start => rfl
    | source | assigned => exact absurd rfl other
    | left within => exact first pureLeft within
    | right done within => exact (second pureRight within).trans (pureLeft.eq_of_eval done)

end Expr

namespace Derives

variable {level : Nat} {tokens : List Token} {expression : Expr}

/-- Without brackets, a variable is its word alone. -/
theorem tokens_of_identifier {name : String} (derived : Derives level tokens (.identifier name))
    (free : ∀ token ∈ tokens, token.isSign "(" = false) : tokens = [⟨.word, name⟩] := by
  obtain ⟨expression, same⟩ : ∃ expression, expression = Expr.identifier name := ⟨_, rfl⟩
  rw [← same] at derived
  induction derived with
  | @identifier word kind =>
    obtain ⟨_, text⟩ := word
    cases kind
    cases same
    rfl
  | @bracketed opening _ _ _ opens =>
    exact absurd opens (by simp [free opening (List.mem_append_left _ List.mem_cons_self)])
  | ofTerm _ ih | ofProduct _ ih | ofSum _ ih => exact ih free same
  | numeral | negative | product | sum | assignment => cases same

/-- Without brackets, what is assigned stands as a word directly before `=`. -/
theorem before_sign (derived : Derives level tokens expression) (free : ∀ token ∈ tokens, token.isSign "(" = false)
    {name : String} (assigns : expression.Assigns name) : [⟨.word, name⟩, ⟨.operator, "="⟩] <:+: tokens := by
  induction derived with
  | identifier | numeral | negative => exact assigns.elim
  | @bracketed opening _ _ _ opens =>
    exact absurd opens (by simp [free opening (List.mem_append_left _ List.mem_cons_self)])
  | ofTerm _ ih | ofProduct _ ih | ofSum _ ih => exact ih free assigns
  | @product sign _ before after _ _ _ _ _ _ first second | @sum sign _ before after _ _ _ _ _ _ first second =>
    obtain ⟨freeBefore, freeLater⟩ := List.forall_mem_append.1 free
    obtain ⟨_, freeAfter⟩ := List.forall_mem_cons.1 freeLater
    rcases assigns with assigns | assigns
    · exact (first freeBefore assigns).trans (List.prefix_append before _).isInfix
    · exact (second freeAfter assigns).trans ((List.suffix_cons sign after).trans (List.suffix_append before _)).isInfix
  | @assignment sign before after left right derived joins _ first second =>
    obtain ⟨freeBefore, freeLater⟩ := List.forall_mem_append.1 free
    obtain ⟨_, freeAfter⟩ := List.forall_mem_cons.1 freeLater
    cases left with
    | constant | binary => exact assigns.elim
    | identifier target =>
      rcases assigns with rfl | assigns
      · obtain rfl := derived.tokens_of_identifier freeBefore
        obtain ⟨_, _⟩ := sign
        obtain ⟨rfl, rfl⟩ := Token.isSign_iff.1 joins
        exact ⟨[], after, rfl⟩
      · have within := (List.suffix_cons sign after).trans (List.suffix_append before _)
        exact (second freeAfter assigns).trans within.isInfix

end Derives

end LineBasic
