import Mathlib
import LineBasic.Proofs.Step.Agree
import LineBasic.Proofs.Step.Keeps

/-!
Actions that agree unless the first of them goes astray. Some states count as lost, and
no action comes back from one. Where the first action does not end in a lost state, both
end alike (`AgreeUnless`). So two actions can be compared that differ only after
something has happened of which it is known that it did not happen.
-/
namespace LineBasic.Step

variable {σ τ α β : Type}

/-- The first action stays lost where it starts lost. From related states it gets lost,
    or it agrees with the second. -/
structure AgreeUnless (lost : σ → Prop) (before after stopped : σ → τ → Prop) (first : Step σ α)
    (second : Step τ α) : Prop where
  keeps : Keeps lost (fun _ => True) first
  agree : Agree (fun one other => before one other ∧ ¬ lost (first.reached one)) after stopped first second

variable {lost : σ → Prop} {before middle after stopped : σ → τ → Prop}

/-- What has happened in the first action has happened in both. -/
theorem reached_bind_of_keeps {action : Step σ α} {next : α → Step σ β}
    (later : ∀ answer, Keeps lost (fun _ => True) (next answer)) {start : σ} (strays : lost (action.reached start)) :
    lost ((action >>= next).reached start) := by
  cases done : action start with
  | ok answer middle =>
    rw [reached_eq_of_ok done] at strays
    rw [reached_bind_of_ok done]
    exact (later answer).reached strays
  | error stop after =>
    rw [reached_eq_of_error done] at strays
    rwa [reached_bind_of_error done]

/-- What agrees always agrees unless something is lost. -/
theorem Agree.unless {first : Step σ α} {second : Step τ α} (agree : Agree before after stopped first second)
    (keeps : Keeps lost (fun _ => True) first) : AgreeUnless lost before after stopped first second :=
  ⟨keeps, fun _ _ related => agree related.1⟩

/-- Where nothing can be lost, nothing is to be shown but that the actions agree. -/
theorem Agree.never_lost {first : Step σ α} {second : Step τ α} (agree : Agree before after stopped first second) :
    AgreeUnless (fun _ => False) before after stopped first second :=
  agree.unless fun _ strays => strays.elim

theorem AgreeUnless.always {first : Step σ α} {second : Step τ α}
    (agree : AgreeUnless (fun _ => False) before after stopped first second) :
    Agree before after stopped first second :=
  fun _ _ related => agree.agree ⟨related, id⟩

/-- An action that is lost from every state agrees with any other. -/
theorem agreeUnless_of_lost {first : Step σ α} {second : Step τ α} (keeps : Keeps lost (fun _ => True) first)
    (loses : ∀ state, lost (first.reached state)) : AgreeUnless lost before after stopped first second :=
  ⟨keeps, fun one _ related => absurd (loses one) related.2⟩

theorem AgreeUnless.bind {first : Step σ α} {second : Step τ α} {next : α → Step σ β} {next' : α → Step τ β}
    (agree : AgreeUnless lost before middle stopped first second)
    (later : ∀ answer, AgreeUnless lost middle after stopped (next answer) (next' answer)) :
    AgreeUnless lost before after stopped (first >>= next) (second >>= next') := by
  refine ⟨agree.keeps.bind fun answer _ => (later answer).keeps, fun one other related => ?_⟩
  obtain ⟨related, found⟩ := related
  have foundFirst : ¬ lost (first.reached one) := fun strays =>
    found (reached_bind_of_keeps (fun answer => (later answer).keeps) strays)
  rcases agree.agree ⟨related, foundFirst⟩ with
    ⟨answer, one', other', ended, ended', kept⟩ | ⟨stop, one', other', ended, ended', kept⟩
  · rw [reached_bind_of_ok ended] at found
    rw [bind_apply, bind_apply, ended, ended']
    exact (later answer).agree ⟨kept, found⟩
  · rw [bind_apply, bind_apply, ended, ended']
    exact .inr ⟨stop, one', other', rfl, rfl, kept⟩

/-- What goes on after a reading that both have made. -/
theorem agreeUnless_ofExcept_bind {result : Except Stop α} {next : α → Step σ β} {next' : α → Step τ β}
    (kept : ∀ one other, before one other → stopped one other)
    (later : ∀ answer, result = .ok answer → AgreeUnless lost before after stopped (next answer) (next' answer)) :
    AgreeUnless lost before after stopped (ofExcept result >>= next) (ofExcept result >>= next') := by
  cases result with
  | ok answer => exact later answer rfl
  | error stop => exact (agree_throw stop kept).unless (keeps_throw stop)

/-- What goes on from the states themselves. -/
theorem agreeUnless_get_bind {next : σ → Step σ β} {next' : τ → Step τ β}
    (keeps : ∀ state, Keeps lost (fun _ => True) (next state))
    (later : ∀ one other, before one other → AgreeUnless lost before after stopped (next one) (next' other)) :
    AgreeUnless lost before after stopped (get >>= next) (get >>= next') := by
  refine ⟨keeps_get.bind fun state _ => keeps state, fun one other related => ?_⟩
  exact (later one other related.1).agree related

theorem AgreeUnless.ensuring {finish : σ → σ} {finish' : τ → τ} {first : Step σ α} {second : Step τ α}
    (agree : AgreeUnless lost before after stopped first second) (same : ∀ state, lost (finish state) ↔ lost state)
    (answered : ∀ one other, after one other → after (finish one) (finish' other))
    (ended : ∀ one other, stopped one other → stopped (finish one) (finish' other)) :
    AgreeUnless lost before after stopped (ensuring first finish) (ensuring second finish') := by
  refine ⟨agree.keeps.ensuring fun state strays => (same state).2 strays, fun one other related => ?_⟩
  obtain ⟨related, found⟩ := related
  have finishes : (Step.ensuring first finish).reached one = finish (first.reached one) := by
    unfold Step.ensuring Step.reached outcome
    dsimp only
    cases first one <;> rfl
  rw [finishes, same] at found
  unfold Step.ensuring
  rcases agree.agree ⟨related, found⟩ with
    ⟨answer, one', other', done, done', kept⟩ | ⟨stop, one', other', done, done', kept⟩
  · rw [done, done']
    exact .inl ⟨answer, _, _, rfl, rfl, answered one' other' kept⟩
  · rw [done, done']
    exact .inr ⟨stop, _, _, rfl, rfl, ended one' other' kept⟩

theorem AgreeUnless.onFault {first : Step σ α} {second : Step τ α} {handler : Fault → Step σ α}
    {handler' : Fault → Step τ α} (agree : AgreeUnless lost before after stopped first second)
    (handled : ∀ cause, AgreeUnless lost stopped after stopped (handler cause) (handler' cause)) :
    AgreeUnless lost before after stopped (onFault first handler) (onFault second handler') := by
  refine ⟨agree.keeps.onFault fun cause => (handled cause).keeps, fun one other related => ?_⟩
  obtain ⟨related, found⟩ := related
  have foundFirst : ¬ lost (first.reached one) := by
    intro strays
    refine found ?_
    unfold Step.reached outcome Step.onFault
    cases done : first one with
    | ok answer reached => exact reached_eq_of_ok done ▸ strays
    | error stop reached =>
      rw [reached_eq_of_error done] at strays
      cases stop with
      | fault cause => exact (handled cause).keeps.reached strays
      | _ => exact strays
  unfold Step.onFault
  rcases agree.agree ⟨related, foundFirst⟩ with
    ⟨answer, one', other', ended, ended', kept⟩ | ⟨stop, one', other', ended, ended', kept⟩
  · rw [ended, ended']
    exact .inl ⟨answer, one', other', rfl, rfl, kept⟩
  · rw [ended, ended']
    cases stop with
    | fault cause =>
      have same : (Step.onFault first handler).reached one = (handler cause).reached one' := by
        rw [Step.reached, outcome, Step.onFault, ended]
        rfl
      exact (handled cause).agree ⟨kept, same ▸ found⟩
    | _ => exact .inr ⟨_, one', other', rfl, rfl, kept⟩

theorem agreeUnless_forM {items : List β} {action : β → Step σ PUnit} {action' : β → Step τ PUnit}
    (each : ∀ item, AgreeUnless lost before before stopped (action item) (action' item)) :
    AgreeUnless lost before before stopped (items.forM action) (items.forM action') := by
  induction items with
  | nil => exact (agree_pure _ fun _ _ related => related).unless (keeps_pure trivial)
  | cons item later ih => exact (each item).bind fun _ => ih

end LineBasic.Step
