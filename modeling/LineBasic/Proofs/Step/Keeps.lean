import Mathlib
import LineBasic.Step

/-!
What actions keep. An action keeps a property of the state if the state has it
afterwards however the action ended (`Keeps`), leaves a view of the state if it
never changes it (`Leaves`), and is atomic for a view if a failure leaves it
(`Atomic`). An action that first only looks, then may fail without a change, and
then only succeeds, is atomic (`Leaves.atomic_bind`, `Atomic.bind`).
-/
namespace LineBasic.Step

variable {σ τ α β : Type}

/-- The state that an action reaches, however it ends. -/
def reached (action : Step σ α) (start : σ) : σ := (outcome action start).2

theorem eq_error_of_outcome {action : Step σ α} {start : σ} {stop : Stop}
    (stopped : (action.outcome start).1 = .error stop) : action start = .error stop (action.reached start) := by
  unfold reached outcome at *
  cases ended : action start with
  | ok answer after => simp [ended] at stopped
  | error cause after =>
    simp only [ended, Except.error.injEq] at stopped
    rw [stopped]

theorem eq_ok_of_outcome {action : Step σ α} {start : σ} {answer : α}
    (answered : (action.outcome start).1 = .ok answer) : action start = .ok answer (action.reached start) := by
  unfold reached outcome at *
  cases ended : action start with
  | ok other after =>
    simp only [ended, Except.ok.injEq] at answered
    rw [answered]
  | error cause after => simp [ended] at answered

theorem reached_eq_of_ok {action : Step σ α} {start after : σ} {answer : α}
    (ended : action start = .ok answer after) : action.reached start = after := by
  rw [reached, outcome, ended]

theorem reached_eq_of_error {action : Step σ α} {start after : σ} {stop : Stop}
    (ended : action start = .error stop after) : action.reached start = after := by
  rw [reached, outcome, ended]

theorem reached_bind_of_ok {action : Step σ α} {next : α → Step σ β} {start middle : σ} {answer : α}
    (ended : action start = .ok answer middle) : (action >>= next).reached start = (next answer).reached middle := by
  unfold reached outcome
  rw [bind_apply, ended]

theorem reached_bind_of_error {action : Step σ α} {next : α → Step σ β} {start after : σ} {stop : Stop}
    (ended : action start = .error stop after) : (action >>= next).reached start = after := by
  unfold reached outcome
  rw [bind_apply, ended]

/-- An action that is bound to a reading is one of the later actions, or fails at
    once. -/
theorem ofExcept_bind_cases (holds : Step σ β → Prop) {result : Except Stop α} {next : α → Step σ β}
    (answered : ∀ answer, result = .ok answer → holds (next answer)) (stopped : ∀ stop, holds (throw stop)) :
    holds (ofExcept result >>= next) := by
  cases result with
  | ok answer => exact answered answer rfl
  | error stop => exact stopped stop

theorem ofExcept_ok_bind (answer : α) (next : α → Step σ β) : (ofExcept (.ok answer) >>= next) = next answer :=
  pure_bind answer next

theorem ofExcept_map_bind {γ : Type} (result : Except Stop α) (change : α → β) (next : β → Step σ γ) :
    (ofExcept (result.map change) >>= next) = (ofExcept result >>= fun answer => next (change answer)) := by
  cases result <;> rfl

/-! ### Properties that are kept -/

/-- The action keeps a property of the state, and its answers have another. -/
def Keeps (holds : σ → Prop) (answers : α → Prop) (action : Step σ α) : Prop :=
  ∀ state, holds state →
    match action state with
    | .ok answer reached => answers answer ∧ holds reached
    | .error _ reached => holds reached

section
variable {holds : σ → Prop} {answers : α → Prop}

theorem Keeps.reached {action : Step σ α} (keeps : Keeps holds answers action) {start : σ} (initially : holds start) :
    holds (action.reached start) := by
  have after := keeps start initially
  unfold Step.reached outcome
  cases ended : action start <;> rw [ended] at after
  · exact after.2
  · exact after

theorem Keeps.mono {more : α → Prop} {action : Step σ α} (keeps : Keeps holds answers action)
    (implies : ∀ answer, answers answer → more answer) : Keeps holds more action := by
  intro state initially
  have after := keeps state initially
  cases ended : action state <;> rw [ended] at after
  · exact ⟨implies _ after.1, after.2⟩
  · exact after

theorem keeps_pure {answer : α} (right : answers answer) : Keeps holds answers (pure answer) :=
  fun _ initially => ⟨right, initially⟩

theorem keeps_throw (stop : Stop) : Keeps holds answers (throw stop : Step σ α) := fun _ initially => initially

theorem keeps_fail (cause : Fault) : Keeps holds answers (fail cause : Step σ α) := fun _ initially => initially

/-- What has been read is known afterwards. -/
theorem keeps_ofExcept (result : Except Stop α) :
    Keeps holds (fun answer => result = .ok answer) (ofExcept result) := by
  cases result with
  | ok answer => exact keeps_pure rfl
  | error stop => exact keeps_throw stop

theorem keeps_get : Keeps holds holds (get : Step σ σ) := fun _ initially => ⟨initially, initially⟩

theorem keeps_modify {change : σ → σ} (kept : ∀ state, holds state → holds (change state)) :
    Keeps holds (fun _ => True) (modify change : Step σ PUnit) :=
  fun state initially => ⟨trivial, kept state initially⟩

theorem Keeps.bind {between : α → Prop} {later : β → Prop} {action : Step σ α} {next : α → Step σ β}
    (first : Keeps holds between action) (second : ∀ answer, between answer → Keeps holds later (next answer)) :
    Keeps holds later (action >>= next) := by
  intro state initially
  have after := first state initially
  rw [bind_apply]
  cases ended : action state with
  | ok answer middle =>
    rw [ended] at after
    exact second answer after.1 middle after.2
  | error stop middle =>
    rw [ended] at after
    exact after

/-- An action on a part of the state keeps what the part keeps. -/
theorem keeps_onPart {part : σ → τ} {withPart : σ → τ → σ} {inner : τ → Prop} {action : Step τ α}
    (keeps : Keeps inner answers action) (has : ∀ state, holds state → inner (part state))
    (kept : ∀ state value, holds state → inner value → holds (withPart state value)) :
    Keeps holds answers (onPart part withPart action) := by
  intro state initially
  have after := keeps (part state) (has state initially)
  unfold onPart
  cases ended : action (part state) <;> rw [ended] at after
  · exact ⟨after.1, kept _ _ initially after.2⟩
  · exact kept _ _ initially after

theorem Keeps.ensuring {action : Step σ α} {finish : σ → σ} (keeps : Keeps holds answers action)
    (kept : ∀ state, holds state → holds (finish state)) : Keeps holds answers (ensuring action finish) := by
  intro state initially
  have after := keeps state initially
  unfold Step.ensuring
  cases ended : action state <;> rw [ended] at after
  · exact ⟨after.1, kept _ after.2⟩
  · exact kept _ after

theorem Keeps.onFault {action : Step σ α} {handler : Fault → Step σ α} (keeps : Keeps holds answers action)
    (handled : ∀ cause, Keeps holds answers (handler cause)) : Keeps holds answers (onFault action handler) := by
  intro state initially
  have after := keeps state initially
  unfold Step.onFault
  cases ended : action state with
  | ok answer reached => simpa only [ended] using after
  | error stop reached =>
    rw [ended] at after
    cases stop with
    | fault cause => exact handled cause reached after
    | _ => exact after

theorem keeps_forM {items : List β} {action : β → Step σ PUnit}
    (each : ∀ item ∈ items, Keeps holds (fun _ => True) (action item)) :
    Keeps holds (fun _ => True) (items.forM action) := by
  induction items with
  | nil => exact keeps_pure trivial
  | cons item later ih =>
    change Keeps holds _ (action item >>= fun _ => later.forM action)
    refine (each item List.mem_cons_self).bind fun _ _ => ih ?_
    exact fun other member => each other (List.mem_cons_of_mem _ member)

end

/-! ### Views that are left as they are -/

/-- The action never changes the view, however it ends. -/
def Leaves (view : σ → τ) (action : Step σ α) : Prop :=
  ∀ seen, Keeps (fun state => view state = seen) (fun _ => True) action

section
variable {view : σ → τ}

/-- What an action leaves can have any property that it had. -/
theorem Leaves.keeps {action : Step σ α} (leaves : Leaves view action) (holds : τ → Prop) :
    Keeps (fun state => holds (view state)) (fun _ => True) action := by
  intro state initially
  have after := leaves (view state) state rfl
  cases ended : action state <;> simp only [ended] at after ⊢
  · rw [after.2]
    exact ⟨trivial, initially⟩
  · rw [after]
    exact initially

theorem Leaves.comp {ρ : Type} {action : Step σ α} (leaves : Leaves view action) (coarser : τ → ρ) :
    Leaves (fun state => coarser (view state)) action :=
  fun seen => leaves.keeps fun value => coarser value = seen

theorem leaves_pure (answer : α) : Leaves view (pure answer) := fun _ => keeps_pure trivial

theorem leaves_throw (stop : Stop) : Leaves view (throw stop : Step σ α) := fun _ => keeps_throw stop

theorem leaves_fail (cause : Fault) : Leaves view (fail cause : Step σ α) := fun _ => keeps_fail cause

theorem leaves_ofExcept (result : Except Stop α) : Leaves view (ofExcept result) := by
  cases result with
  | ok answer => exact leaves_pure answer
  | error stop => exact leaves_throw stop

theorem leaves_get : Leaves view (get : Step σ σ) := fun _ => keeps_get.mono fun _ _ => trivial

theorem leaves_modify {change : σ → σ} (same : ∀ state, view (change state) = view state) :
    Leaves view (modify change : Step σ PUnit) :=
  fun _ => keeps_modify fun state seen => (same state).trans seen

theorem Leaves.bind {action : Step σ α} {next : α → Step σ β} (first : Leaves view action)
    (second : ∀ answer, Leaves view (next answer)) : Leaves view (action >>= next) :=
  fun seen => (first seen).bind fun answer _ => second answer seen

/-- An action on a part that the view does not show leaves the view. -/
theorem leaves_onPart {ρ : Type} {part : σ → ρ} {withPart : σ → ρ → σ}
    (same : ∀ state value, view (withPart state value) = view state) (action : Step ρ α) :
    Leaves view (onPart part withPart action) := by
  intro seen state initially
  unfold onPart
  cases action (part state)
  · exact ⟨trivial, (same _ _).trans initially⟩
  · exact (same _ _).trans initially

/-- An action that leaves the whole part leaves everything. -/
theorem Leaves.onPart {ρ : Type} {part : σ → ρ} {withPart : σ → ρ → σ} {action : Step ρ α}
    (leaves : Leaves (fun value => value) action) (same : ∀ state, view (withPart state (part state)) = view state) :
    Leaves view (onPart part withPart action) := by
  intro seen state initially
  have after := leaves (part state) (part state) rfl
  unfold Step.onPart
  cases ended : action (part state) with
  | ok answer value =>
    simp only [ended] at after ⊢
    rw [after.2]
    exact ⟨trivial, (same state).trans initially⟩
  | error stop value =>
    simp only [ended] at after ⊢
    rw [after]
    exact (same state).trans initially

end

/-! ### Failures that leave a view -/

/-- The action leaves the view where it fails. -/
def Atomic (view : σ → τ) (action : Step σ α) : Prop :=
  ∀ ⦃state stop reached⦄, action state = .error stop reached → view reached = view state

def Succeeds (action : Step σ α) : Prop := ∀ ⦃state stop reached⦄, action state ≠ .error stop reached

section
variable {view : σ → τ}

theorem Leaves.atomic {action : Step σ α} (leaves : Leaves view action) : Atomic view action := by
  intro state stop reached ended
  have after := leaves (view state) state rfl
  rwa [ended] at after

theorem Succeeds.atomic {action : Step σ α} (succeeds : Succeeds action) : Atomic view action :=
  fun _ _ _ ended => absurd ended (@succeeds _ _ _)

theorem succeeds_pure (answer : α) : Succeeds (pure answer : Step σ α) := by
  intro state stop reached ended
  rw [pure_apply] at ended
  cases ended

theorem succeeds_modify (change : σ → σ) : Succeeds (modify change : Step σ PUnit) := by
  intro state stop reached ended
  rw [modify_apply] at ended
  cases ended

theorem Succeeds.bind {action : Step σ α} {next : α → Step σ β} (first : Succeeds action)
    (second : ∀ answer, Succeeds (next answer)) : Succeeds (action >>= next) := by
  intro state stop reached ended
  rw [bind_apply] at ended
  cases done : action state with
  | ok answer middle =>
    rw [done] at ended
    exact second answer ended
  | error stop middle => exact first done

theorem Succeeds.onPart {ρ : Type} {part : σ → ρ} {withPart : σ → ρ → σ} {action : Step ρ α}
    (succeeds : Succeeds action) : Succeeds (onPart part withPart action) := by
  intro state stop reached ended
  unfold Step.onPart at ended
  cases done : action (part state) with
  | ok answer value => simp [done] at ended
  | error stop value => exact succeeds done

/-- After an action that leaves the view, an atomic one may come. -/
theorem Leaves.atomic_bind {action : Step σ α} {next : α → Step σ β} (first : Leaves view action)
    (second : ∀ answer, Atomic view (next answer)) : Atomic view (action >>= next) := by
  intro state stop reached ended
  have after := first (view state) state rfl
  rw [bind_apply] at ended
  cases done : action state with
  | ok answer middle =>
    simp only [done] at ended after
    exact (second answer ended).trans after.2
  | error stop middle =>
    simp only [done, EStateM.Result.error.injEq] at ended after
    rw [← ended.2]
    exact after

/-- After an atomic action, only actions may come that never fail. -/
theorem Atomic.bind {action : Step σ α} {next : α → Step σ β} (first : Atomic view action)
    (second : ∀ answer, Succeeds (next answer)) : Atomic view (action >>= next) := by
  intro state stop reached ended
  rw [bind_apply] at ended
  cases done : action state with
  | ok answer middle =>
    rw [done] at ended
    exact absurd ended (@second answer _ _ _)
  | error stop middle =>
    simp only [done, EStateM.Result.error.injEq] at ended
    rw [← ended.2]
    exact first done

/-- An action on a part is atomic for a view that follows from the part and from
    what else there is. -/
theorem Atomic.onPart {ρ : Type} {part : σ → ρ} {withPart : σ → ρ → σ} {action : Step ρ α}
    (atomic : Atomic (fun value => value) action) (same : ∀ state, view (withPart state (part state)) = view state) :
    Atomic view (onPart part withPart action) := by
  intro state stop reached ended
  unfold Step.onPart at ended
  cases done : action (part state) with
  | ok answer value => simp [done] at ended
  | error stop value =>
    simp only [done, EStateM.Result.error.injEq] at ended
    rw [← ended.2, show value = part state from atomic done]
    exact same state

end

end LineBasic.Step
