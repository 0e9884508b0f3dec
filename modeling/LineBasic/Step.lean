import LineBasic.Fault

/-!
Actions on a state. A `Step` answers or stops, and keeps the state that it had
reached when it stopped: what was assigned or written before a failure stays. An
action is a function of its state, and the lemmas here say for each way of
building one what that function is.
-/
namespace LineBasic

/-- An action on a state `σ`. It answers or stops, and in both cases leaves the
    state that it reached. -/
abbrev Step (σ α : Type) := EStateM Stop σ α

namespace Step

variable {σ τ α : Type}

/-- Stops with a fault. -/
def fail (cause : Fault) : Step σ α := throw (.fault cause)

/-- An answer that needs no state. -/
def ofExcept : Except Stop α → Step σ α
  | .ok answer => pure answer
  | .error stop => throw stop

/-- Runs an action on a part of the state. -/
def onPart (part : σ → τ) (withPart : σ → τ → σ) (action : Step τ α) : Step σ α := fun state =>
  match action (part state) with
  | .ok answer reached => .ok answer (withPart state reached)
  | .error stop reached => .error stop (withPart state reached)

/-- Applies `finish` to the state that the action reached, however it ended. -/
def ensuring (action : Step σ α) (finish : σ → σ) : Step σ α := fun state =>
  match action state with
  | .ok answer reached => .ok answer (finish reached)
  | .error stop reached => .error stop (finish reached)

/-- Handles the fault that an action stops with, from the state it had reached.
    Other causes pass. -/
def onFault (action : Step σ α) (handler : Fault → Step σ α) : Step σ α := fun state =>
  match action state with
  | .error (.fault cause) reached => handler cause reached
  | ended => ended

/-- Runs an action on a state of its own, which is dropped afterwards. -/
def isolated (action : Step τ α) (start : τ) : Except Stop α :=
  match action start with
  | .ok answer _ => .ok answer
  | .error stop _ => .error stop

/-- The answer or the cause, and the state reached. -/
def outcome (action : Step σ α) (start : σ) : Except Stop α × σ :=
  match action start with
  | .ok answer reached => (.ok answer, reached)
  | .error stop reached => (.error stop, reached)

theorem pure_apply (answer : α) (state : σ) : (pure answer : Step σ α) state = .ok answer state := rfl

theorem throw_apply (stop : Stop) (state : σ) : (throw stop : Step σ α) state = .error stop state := rfl

theorem fail_apply (cause : Fault) (state : σ) : (fail cause : Step σ α) state = .error (.fault cause) state := rfl

theorem get_apply (state : σ) : (get : Step σ σ) state = .ok state state := rfl

theorem modify_apply (change : σ → σ) (state : σ) : (modify change : Step σ PUnit) state = .ok ⟨⟩ (change state) := rfl

theorem bind_apply {β : Type} (action : Step σ α) (next : α → Step σ β) (state : σ) :
    (action >>= next) state =
      match action state with
      | .ok answer reached => next answer reached
      | .error stop reached => .error stop reached := by
  change EStateM.bind action next state = _
  unfold EStateM.bind
  cases action state <;> rfl

theorem ofExcept_ok (answer : α) (state : σ) : (ofExcept (.ok answer) : Step σ α) state = .ok answer state := rfl

theorem ofExcept_error (stop : Stop) (state : σ) :
    (ofExcept (.error stop) : Step σ α) state = .error stop state := rfl

end Step


end LineBasic
