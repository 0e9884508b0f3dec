import Mathlib
import LineBasic.Step

/-!
Actions that agree. Two actions, each on a state of its own, agree if from related
states they end alike: both with the same answer, or both with the same cause, and
again in related states. There is a rule for each way of building an action; the
rules for one side alone serve where the other side has nothing to match.
-/
namespace LineBasic.Step

variable {σ τ ρ α β : Type}

/-- From states related by `before`, both actions answer the same and reach states
    related by `after`, or stop with the same cause and reach states related by
    `stopped`. -/
def Agree (before after stopped : σ → τ → Prop) (first : Step σ α) (second : Step τ α) : Prop :=
  ∀ ⦃one other⦄, before one other →
    (∃ answer one' other', first one = .ok answer one' ∧ second other = .ok answer other' ∧ after one' other') ∨
    ∃ stop one' other', first one = .error stop one' ∧ second other = .error stop other' ∧ stopped one' other'

variable {before middle after stopped : σ → τ → Prop}

/-- Where both ends are related alike, so are the states reached. -/
theorem Agree.outcome {first : Step σ α} {second : Step τ α} (agree : Agree before after after first second)
    {one : σ} {other : τ} (related : before one other) :
    (first.outcome one).1 = (second.outcome other).1 ∧ after (first.outcome one).2 (second.outcome other).2 := by
  unfold Step.outcome
  rcases agree related with ⟨answer, one', other', ended, ended', kept⟩ | ⟨stop, one', other', ended, ended', kept⟩
  · rw [ended, ended']
    exact ⟨rfl, kept⟩
  · rw [ended, ended']
    exact ⟨rfl, kept⟩

theorem Agree.mono {before' after' : σ → τ → Prop} {first : Step σ α} {second : Step τ α}
    (agree : Agree before after stopped first second) (sooner : ∀ one other, before' one other → before one other)
    (later : ∀ one other, after one other → after' one other) : Agree before' after' stopped first second := by
  intro one other related
  rcases agree (sooner one other related) with ⟨answer, one', other', ended, ended', kept⟩ | failed
  · exact .inl ⟨answer, one', other', ended, ended', later one' other' kept⟩
  · exact .inr failed

theorem agree_pure (answer : α) (kept : ∀ one other, before one other → after one other) :
    Agree before after stopped (pure answer) (pure answer) :=
  fun one other related => .inl ⟨answer, one, other, rfl, rfl, kept one other related⟩

theorem agree_throw (stop : Stop) (kept : ∀ one other, before one other → stopped one other) :
    Agree before after stopped (throw stop : Step σ α) (throw stop) :=
  fun one other related => .inr ⟨stop, one, other, rfl, rfl, kept one other related⟩

theorem agree_ofExcept (result : Except Stop α) (kept : ∀ one other, before one other → stopped one other) :
    Agree before before stopped (ofExcept result) (ofExcept result) := by
  cases result with
  | ok answer => exact agree_pure answer fun _ _ related => related
  | error stop => exact agree_throw stop kept

theorem agree_modify {change : σ → σ} {change' : τ → τ}
    (changed : ∀ one other, before one other → after (change one) (change' other)) :
    Agree before after stopped (modify change : Step σ PUnit) (modify change') :=
  fun one other related => .inl ⟨⟨⟩, change one, change' other, rfl, rfl, changed one other related⟩

theorem Agree.bind {first : Step σ α} {second : Step τ α} {next : α → Step σ β} {next' : α → Step τ β}
    (agree : Agree before middle stopped first second)
    (later : ∀ answer, Agree middle after stopped (next answer) (next' answer)) :
    Agree before after stopped (first >>= next) (second >>= next') := by
  intro one other related
  rw [bind_apply, bind_apply]
  rcases agree related with ⟨answer, one', other', ended, ended', kept⟩ | ⟨stop, one', other', ended, ended', kept⟩
  · rw [ended, ended']
    exact later answer kept
  · rw [ended, ended']
    exact .inr ⟨stop, one', other', rfl, rfl, kept⟩

/-- What goes on from the states themselves. -/
theorem agree_get_bind {next : σ → Step σ β} {next' : τ → Step τ β}
    (later : ∀ one other, before one other → Agree before after stopped (next one) (next' other)) :
    Agree before after stopped (get >>= next) (get >>= next') := by
  intro one other related
  rw [bind_apply, bind_apply]
  exact later one other related related

/-- The same action on parts that are equal. -/
theorem agree_onPart {part : σ → ρ} {withPart : σ → ρ → σ} {part' : τ → ρ} {withPart' : τ → ρ → τ} (action : Step ρ α)
    (same : ∀ one other, before one other → part one = part' other)
    (answered : ∀ one other value, before one other → after (withPart one value) (withPart' other value))
    (ended : ∀ one other value, before one other → stopped (withPart one value) (withPart' other value)) :
    Agree before after stopped (onPart part withPart action) (onPart part' withPart' action) := by
  intro one other related
  unfold onPart
  rw [same one other related]
  cases action (part' other) with
  | ok answer value => exact .inl ⟨answer, _, _, rfl, rfl, answered one other value related⟩
  | error stop value => exact .inr ⟨stop, _, _, rfl, rfl, ended one other value related⟩

/-! ### One side alone -/

theorem agree_get_left {next : σ → Step σ β} {second : Step τ β}
    (later : ∀ one other, before one other → Agree before after stopped (next one) second) :
    Agree before after stopped (get >>= next) second := by
  intro one other related
  rw [bind_apply]
  exact later one other related related

theorem agree_modify_left (middle : σ → τ → Prop) {change : σ → σ} {next : Step σ β} {second : Step τ β}
    (changed : ∀ one other, before one other → middle (change one) other)
    (later : Agree middle after stopped next second) :
    Agree before after stopped ((modify change : Step σ PUnit) >>= fun _ => next) second := by
  intro one other related
  rw [bind_apply]
  exact later (changed one other related)

/-- An action of which it is known what it answers, and that it changes nothing. -/
theorem agree_known_left {first : Step σ α} {next : α → Step σ β} {second : Step τ β} (answer : α)
    (known : ∀ one other, before one other → first one = .ok answer one)
    (later : Agree before after stopped (next answer) second) :
    Agree before after stopped (first >>= next) second := by
  intro one other related
  rw [bind_apply, known one other related]
  exact later related

theorem Agree.ensuring_left {finish : σ → σ} {first : Step σ α} {second : Step τ α}
    (agree : Agree before after stopped first second)
    (answered : ∀ one other, after one other → after (finish one) other)
    (ended : ∀ one other, stopped one other → stopped (finish one) other) :
    Agree before after stopped (ensuring first finish) second := by
  intro one other related
  unfold Step.ensuring
  rcases agree related with ⟨answer, one', other', done, done', kept⟩ | ⟨stop, one', other', done, done', kept⟩
  · rw [done]
    exact .inl ⟨answer, _, other', rfl, done', answered one' other' kept⟩
  · rw [done]
    exact .inr ⟨stop, _, other', rfl, done', ended one' other' kept⟩

/-- A change at the end that the relation does not see. -/
theorem Agree.modify_after_left {change : σ → σ} {first : Step σ PUnit} {second : Step τ PUnit}
    (agree : Agree before after stopped first second)
    (changed : ∀ one other, after one other → after (change one) other) :
    Agree before after stopped (first >>= fun _ => modify change) second := by
  intro one other related
  rw [bind_apply]
  rcases agree related with ⟨answer, one', other', done, done', kept⟩ | ⟨stop, one', other', done, done', kept⟩
  · rw [done]
    exact .inl ⟨answer, change one', other', rfl, done', changed one' other' kept⟩
  · rw [done]
    exact .inr ⟨stop, one', other', rfl, done', kept⟩

end LineBasic.Step
