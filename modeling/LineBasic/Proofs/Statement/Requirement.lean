import Mathlib
import LineBasic.Proofs.Token.Ahead
import LineBasic.Statement.Form

/-!
What a check requires of the tokens that come. Whichever scanner it takes them from, a
requirement is met before the tokens that a condition holds of, and finds all others
malformed (`Form.Requires`). One lemma for each way of taking tokens says what the
condition is when something else is required after it.
-/
namespace LineBasic.Form

/-- An accepted token, and what holds of the tokens after it. -/
def leads (accepts : Token → Bool) (later : List Token → Bool) : List Token → Bool
  | [] => false
  | token :: rest => accepts token && later rest

/-- An operand of allowed tokens, the token that ends it, and what holds of the tokens
    after that. -/
def passes (ends allowed : Token → Bool) (later : List Token → Bool) : List Token → Bool
  | [] => false
  | token :: rest => if ends token then later rest else allowed token && passes ends allowed later rest

theorem passes_iff {ends allowed : Token → Bool} {later : List Token → Bool} {tokens : List Token} :
    passes ends allowed later tokens = true ↔
      ∃ operand last rest, tokens = operand ++ last :: rest ∧ ends last = true ∧ later rest = true ∧
        ∀ token ∈ operand, ends token = false ∧ allowed token = true := by
  induction tokens with
  | nil => simp [passes]
  | cons first rest ih =>
    unfold passes
    cases here : ends first with
    | true =>
      simp only [↓reduceIte]
      constructor
      · intro holds
        exact ⟨[], first, rest, rfl, here, holds, by simp⟩
      · rintro ⟨operand, last, after, split, _, holds, others⟩
        cases operand with
        | nil =>
          cases split
          exact holds
        | cons token operand =>
          cases split
          exact absurd here (by simp [(others first List.mem_cons_self).1])
    | false =>
      simp only [Bool.false_eq_true, ↓reduceIte, Bool.and_eq_true, ih]
      constructor
      · rintro ⟨fits, operand, last, after, rfl, last_ends, holds, others⟩
        exact ⟨first :: operand, last, after, rfl, last_ends, holds, List.forall_mem_cons.2 ⟨⟨here, fits⟩, others⟩⟩
      · rintro ⟨operand, last, after, split, last_ends, holds, others⟩
        cases operand with
        | nil =>
          cases split
          exact absurd last_ends (by simp [here])
        | cons token operand =>
          cases split
          obtain ⟨⟨_, fits⟩, others⟩ := List.forall_mem_cons.1 others
          exact ⟨fits, operand, last, after, rfl, last_ends, holds, others⟩

/-- The requirement is met before the tokens that the condition holds of. Other tokens
    are malformed. -/
def Requires (requirement : Step Scanner Unit) (condition : List Token → Bool) : Prop :=
  ∀ ⦃scanner tokens⦄, Scanner.IsBefore scanner tokens →
    ∃ after, requirement scanner =
      if condition tokens then .ok () after else .error (.fault .malformed) after

variable {requirement : Step Scanner Unit} {condition : List Token → Bool} {accepts ends allowed : Token → Bool}

theorem requires_return (holds : Bool) :
    Requires (if holds then return () else Step.fail .malformed) fun _ => holds := by
  intro scanner tokens _
  cases holds
  · exact ⟨scanner, rfl⟩
  · exact ⟨scanner, rfl⟩

theorem requires_expectEnd : Requires expectEnd List.isEmpty := by
  intro scanner tokens before
  obtain ⟨after, looked, _⟩ := Scanner.hasMore_isBefore before
  refine ⟨after, ?_⟩
  rw [expectEnd, Step.bind_apply, looked]
  cases tokens.isEmpty <;> rfl

/-- Where no token comes, an ending is taken, which is not accepted. -/
theorem Requires.expect (later : Requires requirement condition)
    (proper : ∀ token : Token, token.isEnding = true → accepts token = false) :
    Requires (do Form.expect accepts; requirement) (leads accepts condition) := by
  intro scanner tokens before
  cases tokens with
  | nil =>
    obtain ⟨token, after, taken, isEnding, _⟩ := Scanner.next_isBefore_nil before
    refine ⟨after, ?_⟩
    simp only [Form.expect, Step.bind_apply, taken, proper token isEnding, Bool.false_eq_true, ↓reduceIte,
      Step.fail_apply, leads]
  | cons token rest =>
    obtain ⟨middle, taken, standing, _⟩ := Scanner.next_isBefore_cons before
    obtain ⟨after, met⟩ := later standing
    cases accepted : accepts token with
    | true =>
      refine ⟨after, ?_⟩
      simp only [Form.expect, Step.bind_apply, taken, accepted, ↓reduceIte, Step.pure_apply, met, leads, Bool.true_and]
    | false =>
      refine ⟨middle, ?_⟩
      simp only [Form.expect, Step.bind_apply, taken, accepted, Bool.false_eq_true, ↓reduceIte, Step.fail_apply, leads,
        Bool.false_and]

theorem Requires.passWithin (later : Requires requirement condition) {scanner : Scanner} {tokens : List Token}
    (before : scanner.IsBefore tokens) {bound : Nat} (enough : tokens.length < bound) :
    ∃ after, (do Form.passWithin ends allowed bound; requirement : Step Scanner Unit) scanner =
      if passes ends allowed condition tokens then .ok () after else .error (.fault .malformed) after := by
  induction tokens generalizing scanner bound with
  | nil =>
    obtain ⟨bound, rfl⟩ := Nat.exists_eq_succ_of_ne_zero (Nat.ne_of_gt enough)
    obtain ⟨token, after, taken, isEnding, _⟩ := Scanner.next_isBefore_nil before
    refine ⟨after, ?_⟩
    simp only [Form.passWithin, Step.bind_apply, taken, isEnding, ↓reduceIte, Step.fail_apply, passes,
      Bool.false_eq_true]
  | cons token rest ih =>
    obtain ⟨bound, rfl⟩ := Nat.exists_eq_succ_of_ne_zero (Nat.ne_of_gt (Nat.lt_of_le_of_lt (Nat.zero_le _) enough))
    obtain ⟨middle, taken, standing, _⟩ := Scanner.next_isBefore_cons before
    have more := before.proper token List.mem_cons_self
    have fewer : rest.length < bound := by simpa using enough
    cases last : ends token with
    | true =>
      obtain ⟨after, met⟩ := later standing
      refine ⟨after, ?_⟩
      simp only [Form.passWithin, Step.bind_apply, taken, more, last, Bool.false_eq_true, ↓reduceIte, Step.pure_apply,
        met, passes]
    | false =>
      cases fits : allowed token with
      | true =>
        obtain ⟨after, met⟩ := ih standing fewer
        refine ⟨after, ?_⟩
        rw [Step.bind_apply] at met
        simp only [Form.passWithin, Step.bind_apply, taken, more, last, fits, Bool.false_eq_true, ↓reduceIte, met,
          passes, Bool.true_and]
      | false =>
        refine ⟨middle, ?_⟩
        simp only [Form.passWithin, Step.bind_apply, taken, more, last, fits, Bool.false_eq_true, ↓reduceIte,
          Step.fail_apply, passes, Bool.false_and]

/-- The bound on the tokens that are taken is beyond the tokens that there are. -/
theorem Requires.pass (later : Requires requirement condition) :
    Requires (do Form.pass ends allowed; requirement) (passes ends allowed condition) := by
  intro scanner tokens before
  have enough : tokens.length < scanner.size + 1 := Nat.lt_succ_of_le (Scanner.length_le_size before)
  exact later.passWithin before enough

theorem requires_without (accepts : Token → Bool) :
    Requires (do
      let tokens ← Scanner.remaining
      if tokens.any accepts then Step.fail .malformed) fun tokens => tokens.all fun token => !accepts token := by
  intro scanner tokens before
  obtain ⟨after, taken⟩ := Scanner.remaining_isBefore before
  refine ⟨after, ?_⟩
  have without : (tokens.all fun token => !accepts token) = !tokens.any accepts := List.not_any_eq_all_not.symm
  simp only [Step.bind_apply, taken, without]
  cases tokens.any accepts <;> rfl

end LineBasic.Form
