import Mathlib
import LineBasic.Proofs.Step.Keeps

/-!
How actions end. An action stops only with given causes if it does so from every
state (`StopsOnly`, or `StopsIn` where the state reached matters too). It commits a
change of a view if the view changes only where the action succeeds (`Commits`), as
it does where an action looks around first and changes the view last
(`Leaves.commits_bind`).
-/
namespace LineBasic.Step

variable {σ τ α β : Type}

/-- An action in two parts fails in the first or in the second. -/
theorem bind_error_cases {action : Step σ α} {next : α → Step σ β} {state after : σ} {stop : Stop}
    (ended : (action >>= next) state = .error stop after) :
    action state = .error stop after ∨
      ∃ answer middle, action state = .ok answer middle ∧ next answer middle = .error stop after := by
  rw [bind_apply] at ended
  cases done : action state with
  | ok answer middle =>
    rw [done] at ended
    exact .inr ⟨answer, middle, rfl, ended⟩
  | error cause middle =>
    rw [done] at ended
    cases ended
    exact .inl rfl

/-- What goes on after a reading fails in the reading or later. -/
theorem ofExcept_bind_error_cases {result : Except Stop α} {next : α → Step σ β} {state after : σ} {stop : Stop}
    (ended : (ofExcept result >>= next) state = .error stop after) :
    result = .error stop ∨ ∃ answer, result = .ok answer ∧ next answer state = .error stop after := by
  cases result with
  | ok answer => exact .inr ⟨answer, rfl, ended⟩
  | error cause =>
    cases ended
    exact .inl rfl

/-- An action in two parts succeeds if both do. -/
theorem bind_ok_cases {action : Step σ α} {next : α → Step σ β} {state after : σ} {answer : β}
    (ended : (action >>= next) state = .ok answer after) :
    ∃ first middle, action state = .ok first middle ∧ next first middle = .ok answer after := by
  rw [bind_apply] at ended
  cases done : action state with
  | ok first middle =>
    rw [done] at ended
    exact ⟨first, middle, rfl, ended⟩
  | error stop middle =>
    rw [done] at ended
    cases ended

theorem ofExcept_bind_ok_cases {result : Except Stop α} {next : α → Step σ β} {state after : σ} {answer : β}
    (ended : (ofExcept result >>= next) state = .ok answer after) :
    ∃ first, result = .ok first ∧ next first state = .ok answer after := by
  cases result with
  | ok first => exact ⟨first, rfl, ended⟩
  | error stop => cases ended

/-! ### Causes -/

/-- From whatever state, the action stops with no other causes. -/
def StopsOnly (allowed : Stop → Prop) (action : Step σ α) : Prop :=
  ∀ ⦃state stop reached⦄, action state = .error stop reached → allowed stop

section
variable {allowed : Stop → Prop}

theorem Succeeds.stopsOnly {action : Step σ α} (succeeds : Succeeds action) : StopsOnly allowed action := by
  intro state stop reached ended
  exact absurd ended (@succeeds state stop reached)

theorem stopsOnly_pure (answer : α) : StopsOnly allowed (pure answer : Step σ α) := (succeeds_pure answer).stopsOnly

theorem stopsOnly_throw {stop : Stop} (right : allowed stop) : StopsOnly allowed (throw stop : Step σ α) := by
  intro state cause reached ended
  rw [throw_apply] at ended
  cases ended
  exact right

theorem stopsOnly_fail {cause : Fault} (right : allowed (.fault cause)) :
    StopsOnly allowed (fail cause : Step σ α) := stopsOnly_throw right

theorem stopsOnly_ofExcept {result : Except Stop α} (right : ∀ stop, result = .error stop → allowed stop) :
    StopsOnly allowed (ofExcept result : Step σ α) := by
  cases result with
  | ok answer => exact stopsOnly_pure answer
  | error stop => exact stopsOnly_throw (right stop rfl)

theorem stopsOnly_modify (change : σ → σ) : StopsOnly allowed (modify change : Step σ PUnit) :=
  (succeeds_modify change).stopsOnly

theorem StopsOnly.bind {action : Step σ α} {next : α → Step σ β} (first : StopsOnly allowed action)
    (second : ∀ answer, StopsOnly allowed (next answer)) : StopsOnly allowed (action >>= next) := by
  intro state stop reached ended
  rcases bind_error_cases ended with failed | ⟨answer, middle, _, failed⟩
  · exact first failed
  · exact second answer failed

theorem StopsOnly.onPart {part : σ → τ} {withPart : σ → τ → σ} {action : Step τ α} (stops : StopsOnly allowed action) :
    StopsOnly allowed (onPart part withPart action) := by
  intro state stop reached ended
  unfold Step.onPart at ended
  cases done : action (part state) with
  | ok answer value =>
    rw [done] at ended
    cases ended
  | error cause value =>
    rw [done] at ended
    cases ended
    exact stops done

theorem StopsOnly.isolated {action : Step σ α} (stops : StopsOnly allowed action) {start : σ} {stop : Stop}
    (ended : action.isolated start = .error stop) : allowed stop := by
  unfold Step.isolated at ended
  cases done : action start with
  | ok answer reached =>
    rw [done] at ended
    cases ended
  | error cause reached =>
    rw [done] at ended
    cases ended
    exact stops done

end

/-! ### Causes together with the state reached -/

/-- Where the action stops, the cause and the state reached are as it is said. -/
def StopsIn (how : Stop → σ → Prop) (action : Step σ α) : Prop :=
  ∀ ⦃state stop reached⦄, action state = .error stop reached → how stop reached

section
variable {how : Stop → σ → Prop}

theorem Succeeds.stopsIn {action : Step σ α} (succeeds : Succeeds action) : StopsIn how action :=
  fun _ _ _ ended => absurd ended (@succeeds _ _ _)

theorem stopsIn_throw {stop : Stop} (right : ∀ state, how stop state) : StopsIn how (throw stop : Step σ α) := by
  intro state cause reached ended
  rw [throw_apply] at ended
  cases ended
  exact right state

theorem stopsIn_ofExcept {result : Except Stop α} (right : ∀ stop, result = .error stop → ∀ state, how stop state) :
    StopsIn how (ofExcept result : Step σ α) := by
  cases result with
  | ok answer => exact (succeeds_pure answer).stopsIn
  | error stop => exact stopsIn_throw (right stop rfl)

theorem StopsIn.bind {action : Step σ α} {next : α → Step σ β} (first : StopsIn how action)
    (second : ∀ answer, StopsIn how (next answer)) : StopsIn how (action >>= next) := by
  intro state stop reached ended
  rcases bind_error_cases ended with failed | ⟨answer, middle, _, failed⟩
  · exact first failed
  · exact second answer failed

theorem stopsIn_forM {items : List β} {action : β → Step σ PUnit} (each : ∀ item, StopsIn how (action item)) :
    StopsIn how (items.forM action) := by
  induction items with
  | nil => exact (succeeds_pure _).stopsIn
  | cons item later ih => exact (each item).bind fun _ => ih

end

/-! ### Views that change last -/

/-- The action changes the view only by succeeding, and then as it is said. -/
def Commits (view : σ → τ) (moved : τ → τ → Prop) (action : Step σ α) : Prop :=
  ∀ state,
    match action state with
    | .ok _ reached => moved (view state) (view reached)
    | .error _ reached => view reached = view state

section
variable {view : σ → τ} {moved : τ → τ → Prop}

theorem commits_fail (cause : Fault) : Commits view moved (fail cause : Step σ α) := fun _ => rfl

theorem commits_modify {change : σ → σ} (changed : ∀ state, moved (view state) (view (change state))) :
    Commits view moved (modify change : Step σ PUnit) := changed

/-- Before the action that changes the view, others may look around. -/
theorem Leaves.commits_bind {action : Step σ α} {next : α → Step σ β} (first : Leaves view action)
    (second : ∀ answer, Commits view moved (next answer)) : Commits view moved (action >>= next) := by
  intro state
  have left := first (view state) state rfl
  rw [bind_apply]
  cases done : action state with
  | ok answer middle =>
    rw [done] at left
    have onward := second answer middle
    rwa [left.2] at onward
  | error stop middle =>
    rw [done] at left
    exact left

end

end LineBasic.Step
