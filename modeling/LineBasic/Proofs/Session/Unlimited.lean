import Mathlib
import LineBasic.Proofs.Session.Respected
import LineBasic.Proofs.Session.Running

/-!
Runs without a limit. A budget only decides whether a run comes to its end, and not to
which. `RunEnds` is the ending of a run that has enough budget, and `Settles` the same
without any budget: the statements are performed one after the other, until the cursor
stands nowhere or one fails. Both are shown to agree (`runEnds_iff_settles`), so that no run
has two endings (`RunEnds.unique`).
-/
namespace LineBasic.Session

/-- How a run ended for the user: with which cause, if it failed, and what it left. -/
structure Ending where
  result : Except Stop Unit
  vars : Variables
  console : Console

/-- What the user sees of the way in which an action ended. -/
def Ending.of : EStateM.Result Stop Session Unit → Ending
  | .ok _ after => ⟨.ok (), after.vars, after.console⟩
  | .error stop after => ⟨.error stop, after.vars, after.console⟩

/-- With a budget that is large enough, a run ends in the given way. -/
def RunEnds (session : Session) (ending : Ending) : Prop :=
  ending.result ≠ .error .stepLimit ∧ ∃ budget, Ending.of (run { session with budget := budget }) = ending

/-- What executing a statement does apart from the budget and the log. -/
def enact (statement : Statement) : Action Unit :=
  match statement.kind with
  | .unknown _ => Step.fail .malformed
  | .known keyword => perform keyword statement.source

/-- The statements from the cursor on come to the ending. -/
inductive Settles : Session → Ending → Prop
  | finished {session : Session} (nowhere : session.program.cursor = none) :
      Settles session ⟨.ok (), session.vars, session.console⟩
  | failed {session after : Session} {number : Int} {statement : Statement} {stop : Stop}
      (onLine : session.OnLine number statement) (fails : enact statement session = .error stop after)
      (other : stop ≠ .stepLimit) : Settles session ⟨.error stop, after.vars, after.console⟩
  | turn {session next : Session} {number : Int} {statement : Statement} {ending : Ending}
      (onLine : session.OnLine number statement) (done : enact statement session = .ok () next)
      (later : Settles next ending) : Settles session ending

/-! ### Sessions that have come equally far -/

/-- The sessions differ at most in their budgets and their logs. -/
structure Abreast (one other : Session) : Prop where
  program : one.program = other.program
  vars : one.vars = other.vars
  console : one.console = other.console

variable {session one other : Session} {number : Int} {statement : Statement} {ending : Ending}

theorem Abreast.onLine (abreast : Abreast one other) (onLine : one.OnLine number statement) :
    other.OnLine number statement :=
  ⟨abreast.program ▸ onLine.cursor, abreast.program ▸ onLine.stored⟩

/-- A statement neither looks at the budget nor at the log. -/
theorem agree_enact (statement : Statement) :
    Step.Agree Abreast Abreast Abreast (enact statement) (enact statement) := by
  have respected : Respected (fun _ => False) Abreast :=
    respected_of_kept fun one other same => ⟨same.vars, same.console, fun _ _ _ _ => ⟨same.program, rfl, rfl⟩⟩
  have kept : ∀ one other : Session, Abreast one other → one.program = other.program ∧
      ∀ program, Abreast { one with program := program } { other with program := program } :=
    fun one other same => ⟨same.program, fun program => ⟨rfl, same.vars, same.console⟩⟩
  unfold enact
  cases statement.kind with
  | unknown name => exact Step.agree_throw _ fun _ _ same => same
  | known keyword =>
    refine Step.AgreeUnless.always (respected.perform rfl (fun _ => ?_) (fun _ => ?_) fun number _ => ?_)
    · exact (agree_editProgram_of_kept kept Program.advance).never_lost
    · exact (agree_editProgram_of_kept kept Program.halt).never_lost
    · exact (agree_onProgram_of_kept kept (Program.jump number)).never_lost

theorem Abreast.enact_ok {next : Session} (abreast : Abreast one other) (done : enact statement one = .ok () next) :
    ∃ next', enact statement other = .ok () next' ∧ Abreast next next' := by
  rcases agree_enact statement abreast with ⟨_, _, next', done', ended, kept⟩ | ⟨stop, _, _, failed, _, _⟩
  · rw [done] at done'
    cases done'
    exact ⟨next', ended, kept⟩
  · rw [done] at failed
    cases failed

theorem Abreast.enact_error {after : Session} {stop : Stop} (abreast : Abreast one other)
    (fails : enact statement one = .error stop after) :
    ∃ after', enact statement other = .error stop after' ∧ Abreast after after' := by
  rcases agree_enact statement abreast with ⟨_, _, _, done, _, _⟩ | ⟨stop', _, after', failed, ended, kept⟩
  · rw [fails] at done
    cases done
  · rw [fails] at failed
    cases failed
    exact ⟨after', ended, kept⟩

/-- Executing a statement with some budget left is enacting it abreast. -/
theorem execute_eq_enact (statement : Statement) {left : Nat} (budget : session.budget = left + 1) :
    ∃ noted, execute statement session = enact statement { session with budget := left, noted := noted } := by
  obtain ⟨kind, source⟩ := statement
  cases kind with
  | known keyword => exact execute_known keyword source budget
  | unknown name =>
    refine ⟨session.noted, ?_⟩
    simp only [execute, Step.bind_apply, countDown, budget]
    rfl

/-! ### Endings -/

theorem Settles.of_abreast (settles : Settles one ending) (abreast : Abreast one other) : Settles other ending := by
  induction settles generalizing other with
  | @finished session nowhere =>
    rw [abreast.vars, abreast.console]
    exact .finished (abreast.program ▸ nowhere)
  | @failed session after number statement stop onLine fails limit =>
    obtain ⟨after', fails', kept⟩ := abreast.enact_error fails
    rw [kept.vars, kept.console]
    exact .failed (abreast.onLine onLine) fails' limit
  | turn onLine done _ ih =>
    obtain ⟨next', done', kept⟩ := abreast.enact_ok done
    exact .turn (abreast.onLine onLine) done' (ih kept)

theorem OnLine.unique {number' : Int} {statement' : Statement} (onLine : session.OnLine number statement)
    (onLine' : session.OnLine number' statement') : statement = statement' := by
  obtain rfl : number = number' := Option.some.inj (onLine.cursor.symm.trans onLine'.cursor)
  exact Option.some.inj (onLine.stored.symm.trans onLine'.stored)

theorem OnLine.not_nowhere (onLine : session.OnLine number statement) : session.program.cursor ≠ none := by
  rw [onLine.cursor]
  exact Option.some_ne_none number

theorem Settles.unique {ending' : Ending} (settles : Settles session ending) (settles' : Settles session ending') :
    ending = ending' := by
  induction settles with
  | finished nowhere =>
    cases settles' with
    | finished => rfl
    | failed onLine | turn onLine => exact absurd nowhere onLine.not_nowhere
  | failed onLine fails =>
    cases settles' with
    | finished nowhere => exact absurd nowhere onLine.not_nowhere
    | failed onLine' fails' =>
      cases onLine.unique onLine'
      rw [fails] at fails'
      cases fails'
      rfl
    | turn onLine' done =>
      cases onLine.unique onLine'
      rw [fails] at done
      cases done
  | turn onLine done _ ih =>
    cases settles' with
    | finished nowhere => exact absurd nowhere onLine.not_nowhere
    | failed onLine' fails =>
      cases onLine.unique onLine'
      rw [done] at fails
      cases fails
    | turn onLine' done' later =>
      cases onLine.unique onLine'
      rw [done] at done'
      cases done'
      exact ih later

theorem Settles.result_ne (settles : Settles session ending) : ending.result ≠ .error .stepLimit := by
  induction settles with
  | finished => exact fun impossible => by cases impossible
  | failed _ _ other => exact fun same => other (Except.error.inj same)
  | turn _ _ _ ih => exact ih

/-- What the turns of a run come to is what the statements come to, unless it is the limit. -/
theorem settles_of_turns {last : Session} {result : EStateM.Result Stop Session Unit} (turns : Turns session last)
    (ends : Ends last result) (limit : (Ending.of result).result ≠ .error .stepLimit) :
    Settles session (Ending.of result) := by
  induction turns using Relation.ReflTransGen.head_induction_on with
  | refl =>
    cases ends with
    | finished nowhere => exact .finished nowhere
    | @failed number statement stop after onLine fails =>
      cases budget : last.budget with
      | zero =>
        rw [execute_of_exhausted statement budget] at fails
        cases fails
        exact absurd rfl limit
      | succ left =>
        obtain ⟨noted, enacts⟩ := execute_eq_enact statement budget
        rw [enacts] at fails
        have abreast : Abreast { last with budget := left, noted := noted } last := ⟨rfl, rfl, rfl⟩
        obtain ⟨after', fails', kept⟩ := abreast.enact_error fails
        rw [Ending.of, kept.vars, kept.console]
        exact .failed onLine fails' fun same => limit (congrArg Except.error same)
  | @head session next turn _ ih =>
    obtain ⟨number, statement, onLine, done⟩ := turn
    cases budget : session.budget with
    | zero =>
      rw [execute_of_exhausted statement budget] at done
      cases done
    | succ left =>
      obtain ⟨noted, enacts⟩ := execute_eq_enact statement budget
      rw [enacts] at done
      have abreast : Abreast { session with budget := left, noted := noted } session := ⟨rfl, rfl, rfl⟩
      obtain ⟨next', done', kept⟩ := abreast.enact_ok done
      exact .turn onLine done' (ih.of_abreast kept)

/-- With enough budget, a run comes to what the statements come to. -/
theorem Settles.continueRun_ends (settles : Settles session ending) :
    ∃ budget, ∀ other : Session, Abreast session other → budget ≤ other.budget → ∀ bound, other.budget < bound →
      Ending.of (continueRun bound other) = ending := by
  induction settles with
  | @finished session nowhere =>
    refine ⟨0, fun other abreast _ bound below => ?_⟩
    obtain ⟨bound, rfl⟩ := Nat.exists_eq_succ_of_ne_zero (Nat.ne_zero_of_lt below)
    rw [continueRun_of_none bound (abreast.program ▸ nowhere), Ending.of, abreast.vars, abreast.console]
  | @failed session after number statement stop onLine fails _ =>
    refine ⟨1, fun other abreast some bound below => ?_⟩
    obtain ⟨bound, rfl⟩ := Nat.exists_eq_succ_of_ne_zero (Nat.ne_zero_of_lt below)
    obtain ⟨left, budget⟩ := Nat.exists_eq_succ_of_ne_zero (Nat.ne_zero_of_lt some)
    obtain ⟨noted, enacts⟩ := execute_eq_enact statement budget
    have level : Abreast session { other with budget := left, noted := noted } :=
      ⟨abreast.program, abreast.vars, abreast.console⟩
    obtain ⟨after', fails', kept⟩ := level.enact_error fails
    rw [continueRun_of_onLine bound (abreast.onLine onLine), enacts, fails', Ending.of, kept.vars, kept.console]
  | @turn session next number statement ending onLine done _ ih =>
    obtain ⟨enough, later⟩ := ih
    refine ⟨enough + 1, fun other abreast some bound below => ?_⟩
    obtain ⟨bound, rfl⟩ := Nat.exists_eq_succ_of_ne_zero (Nat.ne_zero_of_lt below)
    obtain ⟨left, budget⟩ := Nat.exists_eq_succ_of_ne_zero (Nat.ne_zero_of_lt some)
    obtain ⟨noted, enacts⟩ := execute_eq_enact statement budget
    have level : Abreast session { other with budget := left, noted := noted } :=
      ⟨abreast.program, abreast.vars, abreast.console⟩
    obtain ⟨next', done', kept⟩ := level.enact_ok done
    have executed : execute statement other = .ok () next' := enacts.trans done'
    obtain ⟨_, _, _, counted⟩ := execute_ok_cases executed
    rw [continueRun_of_onLine bound (abreast.onLine onLine), executed]
    exact later next' kept (by omega) bound (by omega)

theorem Ending.of_concluded (result : EStateM.Result Stop Session Unit) : of (concluded result) = of result := by
  cases result <;> rfl

/-- A run with enough budget ends as its statements come to an end. -/
theorem runEnds_iff_settles : RunEnds session ending ↔ Settles session.started ending := by
  constructor
  · rintro ⟨limit, budget, rfl⟩
    obtain ⟨last, result, turns, ends, ran⟩ := run_ends { session with budget := budget }
    rw [ran, Ending.of_concluded] at limit ⊢
    exact (settles_of_turns turns ends limit).of_abreast ⟨rfl, rfl, rfl⟩
  · intro settles
    obtain ⟨budget, ends⟩ := settles.continueRun_ends
    refine ⟨settles.result_ne, budget, ?_⟩
    rw [run_apply, Ending.of_concluded]
    exact ends (started { session with budget := budget }) ⟨rfl, rfl, rfl⟩ le_rfl _ (Nat.lt_succ_self budget)

theorem RunEnds.unique {ending' : Ending} (ends : RunEnds session ending) (ends' : RunEnds session ending') :
    ending = ending' :=
  (runEnds_iff_settles.1 ends).unique (runEnds_iff_settles.1 ends')

end LineBasic.Session
