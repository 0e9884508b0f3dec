import Mathlib
import LineBasic.Expr.Eval
import LineBasic.Expr.Parser
import LineBasic.Proofs.Number.Decimal
import LineBasic.Proofs.Step.Outcome
import LineBasic.Proofs.Token.Ahead

/-!
What expressions fail with. Reading one fails for its form or its numerals
(`Stop.OfReading`), and evaluating one for its variables, a division or the left
side of an assignment (`stopsOnly_eval`). Asking for a value has causes of its own.
So it can be told what failed, and none of it complains about a line number.
-/
namespace LineBasic

namespace Stop

/-- What a numeral can be refused with. -/
inductive OfNumeral : Stop → Prop
  | invalidNumber : OfNumeral (.fault .invalidNumber)
  | tooManyDigits {count : Nat} (long : digitLimit < count) : OfNumeral (.tooManyDigits count)

/-- What reading an expression can stop with. -/
inductive OfReading : Stop → Prop
  | malformed : OfReading (.fault .malformed)
  | invalidNumber : OfReading (.fault .invalidNumber)
  | tooManyDigits {count : Nat} (long : digitLimit < count) : OfReading (.tooManyDigits count)

/-- What evaluating an expression can stop with. -/
inductive OfEvaluation : Stop → Prop
  | undefinedVariable : OfEvaluation (.fault .undefinedVariable)
  | divisionByZero : OfEvaluation (.fault .divisionByZero)
  | notAssignable : OfEvaluation (.fault .notAssignable)

/-- What asking for an integer can stop with. A reply that is no integer is asked for
    again. -/
inductive OfAsking : Stop → Prop
  | endOfInput : OfAsking .endOfInput
  | interrupted : OfAsking .interrupted
  | tooManyDigits {count : Nat} (long : digitLimit < count) : OfAsking (.tooManyDigits count)

theorem OfNumeral.ofReading {stop : Stop} (refused : stop.OfNumeral) : stop.OfReading := by
  cases refused with
  | invalidNumber => exact .invalidNumber
  | tooManyDigits long => exact .tooManyDigits long

end Stop

namespace Decimal

theorem readDigits_error {negative : Bool} {digits : List Char} {stop : Stop}
    (refused : readDigits negative digits = .error stop) : stop.OfNumeral := by
  rw [readDigits_eq] at refused
  split_ifs at refused with _ long
  · cases refused
    exact .tooManyDigits long
  all_goals
    cases refused
    exact .invalidNumber

theorem readLiteral_error {text : String} {stop : Stop} (refused : readLiteral text = .error stop) :
    stop.OfNumeral := by
  unfold readLiteral at refused
  split at refused <;> exact readDigits_error refused

/-- Digits that are not too many are refused as a number only. -/
theorem readDigits_error_of_short {negative : Bool} {digits : List Char} {stop : Stop}
    (short : digits.length ≤ digitLimit) (refused : readDigits negative digits = .error stop) :
    stop = .fault .invalidNumber := by
  rw [readDigits_eq, if_neg (Nat.not_lt.2 short)] at refused
  split_ifs at refused <;> exact (Except.error.inj refused).symm

theorem readLiteral_error_of_short {text : String} {stop : Stop} (short : text.length ≤ digitLimit)
    (refused : readLiteral text = .error stop) : stop = .fault .invalidNumber := by
  rw [← String.length_toList] at short
  unfold readLiteral at refused
  split at refused
  · next digits shown =>
    rw [shown, List.length_cons] at short
    exact readDigits_error_of_short (by omega) refused
  · exact readDigits_error_of_short short refused

theorem readLiteral_minus_error_of_short {text : String} {stop : Stop} (short : text.length ≤ digitLimit)
    (refused : readLiteral ("-" ++ text) = .error stop) : stop = .fault .invalidNumber := by
  rw [← String.length_toList] at short
  have signed : ("-" ++ text).toList = '-' :: text.toList := by rw [String.toList_append]; rfl
  rw [readLiteral, signed] at refused
  exact readDigits_error_of_short short refused

theorem readReply_error {text : String} {stop : Stop} (refused : readReply text = .error stop) :
    stop.OfNumeral := by
  unfold readReply at refused
  split at refused <;> exact readDigits_error refused

end Decimal

namespace Scanner

theorem stopsOnly_next {allowed : Stop → Prop} : Step.StopsOnly allowed next := by
  intro scanner stop reached ended
  obtain ⟨token, after, taken⟩ := next_eq_ok scanner
  rw [taken] at ended
  cases ended

/-- What comes after the taking of a token finds none held. -/
theorem stopsOnly_next_bind {α : Type} {allowed : Stop → Prop} {later : Token → Step Scanner α}
    (onward : ∀ token scanner stop reached, scanner.held = none → later token scanner = .error stop reached →
      allowed stop) : Step.StopsOnly allowed (next >>= later) := by
  intro scanner stop reached ended
  obtain ⟨after, taken, _, free⟩ := next_eq scanner
  rw [Step.bind_apply, taken] at ended
  exact onward _ after stop reached free ended

theorem stopsOnly_hasMore {allowed : Stop → Prop} : Step.StopsOnly allowed hasMore := by
  refine stopsOnly_next_bind fun token scanner stop reached free ended => ?_
  rw [Step.bind_apply, pushBack_eq free] at ended
  cases ended

end Scanner

namespace Expr

theorem stopsOnly_readLiteral (text : String) :
    Step.StopsOnly Stop.OfReading (Step.ofExcept (Decimal.readLiteral text) : Step Scanner Int) := by
  apply Step.stopsOnly_ofExcept
  exact fun stop refused => (Decimal.readLiteral_error refused).ofReading

/-! ### Evaluation -/

theorem stopsOnly_computeStep (operation : Arithmetic) (left right : Int) :
    Step.StopsOnly Stop.OfEvaluation (operation.computeStep left right) := by
  apply Step.stopsOnly_ofExcept
  intro stop failed
  cases operation with
  | divide =>
    by_cases zero : right = 0
    · simp only [Arithmetic.compute, Word.divide, if_pos zero] at failed
      cases failed
      exact .divisionByZero
    · simp only [Arithmetic.compute, Word.divide, if_neg zero] at failed
      cases failed
  | add | subtract | multiply => cases failed

theorem stopsOnly_eval (expression : Expr) : Step.StopsOnly Stop.OfEvaluation expression.eval := by
  induction expression with
  | constant value => exact Step.stopsOnly_pure value
  | identifier name =>
    intro vars stop reached ended
    change Variables.read name vars = .error stop reached at ended
    unfold Variables.read at ended
    cases found : vars.get? name with
    | some value => simp [found] at ended
    | none =>
      simp only [found, EStateM.Result.error.injEq] at ended
      rw [← ended.1]
      exact .undefinedVariable
  | binary operator left right first second =>
    cases operator with
    | arithmetic operation =>
      unfold eval
      exact first.bind fun one => second.bind fun other => stopsOnly_computeStep operation one other
    | assign =>
      cases left with
      | identifier name =>
        unfold eval
        refine second.bind fun value => Step.StopsOnly.bind ?_ fun _ => Step.stopsOnly_pure value
        intro vars stop reached ended
        cases ended
      | constant | binary => exact Step.stopsOnly_fail .notAssignable

end Expr

end LineBasic
