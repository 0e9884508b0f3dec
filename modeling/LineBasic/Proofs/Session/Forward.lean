import Mathlib
import LineBasic.Proofs.Session.Checked
import LineBasic.Proofs.Session.Escapes
import LineBasic.Proofs.Session.Unlimited

/-!
Programs that only jump forward. A stored jump or branch has the number of a line at its end
(`Statement.NamesLine`), and that is where execution goes on, if it does not go on with the
next line (`Statement.Targets.namesLine`, `Session.cursor_of_execute`). Where all these
numbers are above those of their lines, every turn of a run leads upward
(`Session.OnLine.lt_of_execute`), so that a run comes to no line twice
(`Session.Traverses.ascends`). It has come to its end before the budget is spent, if there
is some for every line (`Session.Reachable.run_ascends`).
-/
namespace LineBasic

/-- The statement ends with the number: it is a `GOTO` of it, or an `IF` that has it after
    `THEN`. -/
inductive Statement.NamesLine : Statement → Int → Prop
  | jump {source digits : String} (listed : tokenize source = .ok [⟨.word, "GOTO"⟩, ⟨.number, digits⟩]) :
      NamesLine ⟨.known .jump, source⟩ (Decimal.value digits.toList)
  | branch {source digits : String} {condition : List Token}
      (listed : tokenize source = .ok (⟨.word, "IF"⟩ :: (condition ++ [⟨.word, "THEN"⟩, ⟨.number, digits⟩]))) :
      NamesLine ⟨.known .branch, source⟩ (Decimal.value digits.toList)

/-- Every number that a line has at its end is above its own. -/
def Program.Forward (program : Program) : Prop :=
  ∀ line ∈ program.lines, ∀ target, line.2.NamesLine target → line.1 < target

/-- The cursor does not matter. -/
theorem Program.Forward.of_lines {program other : Program} (forward : program.Forward)
    (same : other.lines = program.lines) : other.Forward := by
  unfold Program.Forward
  rw [same]
  exact forward

namespace Statement

variable {source : String} {keyword : Keyword} {target : Int}

/-- The number that a statement names is its last token. -/
theorem NamesLine.eq_value {statement : Statement} (names : statement.NamesLine target) {before : List Token}
    {digits : String} (listed : tokenize statement.source = .ok (before ++ [⟨.number, digits⟩])) :
    target = Decimal.value digits.toList := by
  have last : (before ++ [(⟨.number, digits⟩ : Token)]).getLast? = some ⟨.number, digits⟩ := List.getLast?_concat
  cases names with
  | @jump _ digits' listed' =>
    have same := Except.ok.inj (listed.symm.trans listed')
    rw [same] at last
    cases last
    rfl
  | @branch _ digits' condition listed' =>
    have same := Except.ok.inj (listed.symm.trans listed')
    have ended : (⟨.word, "IF"⟩ : Token) :: (condition ++ [⟨.word, "THEN"⟩, ⟨.number, digits'⟩]) =
        (⟨.word, "IF"⟩ :: condition ++ [⟨.word, "THEN"⟩]) ++ [⟨.number, digits'⟩] := by simp
    rw [same, ended, List.getLast?_concat] at last
    cases last
    rfl

/-- What is read from the digits among the operands is their value. -/
theorem eq_value_of_readLiteral {digits : String} (listed : ⟨.number, digits⟩ ∈ Operands.operandTokens source)
    (numeral : ∀ c ∈ digits.toList, c.isDigit = true) (read : Decimal.readLiteral digits = .ok target) :
    target = Decimal.value digits.toList := by
  rw [Decimal.readLiteral_of_digits (Session.ne_nil_of_number listed) numeral] at read
  split_ifs at read
  cases read
  rfl

/-- What a checked jump or branch reads as its target is the number at its end. -/
theorem Targets.namesLine (targets : Targets ⟨.known keyword, source⟩ target) (checked : Form.check source = .ok ())
    (starts : keyword? source = .ok (some keyword)) : NamesLine ⟨.known keyword, source⟩ target := by
  have tokens := tokenize_of_keyword? starts
  have follows := (Form.check_iff_follows starts).1 checked
  generalize listed : Operands.operandTokens source = operands at tokens follows
  cases targets with
  | jump read =>
    cases follows with
    | @jump digits numeral =>
      rw [Operands.after_target listed] at read
      obtain rfl := eq_value_of_readLiteral (by rw [listed]; simp) numeral read
      exact .jump tokens
  | branch parted read =>
    cases follows with
    | @branch left right sign digits relates plainLeft plainRight numeral =>
      -- The text is parted for execution as it was for the check.
      obtain ⟨relation, _, parts⟩ := Branch.ofTokens?_of_parts ⟨.number, digits⟩ relates
        (fun token member => (plainLeft token member).2) fun token member => (plainRight token member).2.2
      rw [listed, parts, Option.some.injEq] at parted
      subst parted
      obtain rfl := eq_value_of_readLiteral (by rw [listed]; simp) numeral read
      have ended : left ++ sign :: (right ++ [⟨.word, "THEN"⟩, ⟨.number, digits⟩]) =
          (left ++ sign :: right) ++ [⟨.word, "THEN"⟩, ⟨.number, digits⟩] := by simp
      rw [ended] at tokens
      exact .branch tokens

end Statement

namespace Session

/-- From the session on, a run comes to the lines of the numbers, in this order, and its
    turns come to the result. -/
inductive Traverses : Session → List Int → EStateM.Result Stop Session Unit → Prop
  | finished {session : Session} (nowhere : session.program.cursor = none) : Traverses session [] (.ok () session)
  | failed {session after : Session} {number : Int} {statement : Statement} {stop : Stop}
      (onLine : session.OnLine number statement) (fails : execute statement session = .error stop after) :
      Traverses session [number] (.error stop after)
  | turn {session next : Session} {number : Int} {statement : Statement} {numbers : List Int}
      {result : EStateM.Result Stop Session Unit} (onLine : session.OnLine number statement)
      (done : execute statement session = .ok () next) (later : Traverses next numbers result) :
      Traverses session (number :: numbers) result

variable {session after : Session} {source : String} {number next : Int} {statement : Statement}
  {keyword : Keyword} {numbers : List Int} {result : EStateM.Result Stop Session Unit}

/-! ### Turns -/

theorem cursor_of_jump (done : onProgram (Program.jump number) session = .ok () after) :
    after.program.cursor = some number := by
  rw [jump_apply] at done
  split_ifs at done
  cases done
  rfl

theorem targets_of_perform_jump (done : perform .jump source session = .ok () after)
    (cursor : after.program.cursor = some next) : Statement.Targets ⟨.known .jump, source⟩ next := by
  rw [perform_jump] at done
  cases read : Operands.after Operands.target source with
  | error stop => simp [read] at done
  | ok target =>
    simp only [read] at done
    obtain rfl := Option.some.inj ((cursor_of_jump done).symm.trans cursor)
    exact .jump read

/-- A branch that succeeds has jumped to its target, or has gone on. -/
theorem targets_of_perform_branch (done : perform .branch source session = .ok () after)
    (cursor : after.program.cursor = some next) :
    session.program.advance.cursor = some next ∨ Statement.Targets ⟨.known .branch, source⟩ next := by
  rw [perform_branch] at done
  cases parted : Branch.ofTokens? (Operands.operandTokens source) with
  | none => simp [parted] at done
  | some branch =>
    simp only [parted] at done
    cases values : branch.values session.vars with
    | error stop vars => simp [values] at done
    | ok operands vars =>
      simp only [values] at done
      by_cases relates : branch.relation.holds operands.1 operands.2 = true
      · rw [if_pos relates] at done
        cases read : Decimal.readLiteral branch.target.text with
        | error stop => simp [read] at done
        | ok target =>
          simp only [read] at done
          obtain rfl := Option.some.inj ((cursor_of_jump done).symm.trans cursor)
          exact .inr (.branch parted read)
      · rw [if_neg relates] at done
        cases done
        exact .inl cursor

/-- Wherever a statement that succeeds leaves the cursor, it is the next line or the target. -/
theorem cursor_of_perform (done : perform keyword source session = .ok () after)
    (cursor : after.program.cursor = some next) :
    session.program.advance.cursor = some next ∨ Statement.Targets ⟨.known keyword, source⟩ next := by
  by_cases jumping : keyword = .jump ∨ keyword = .branch
  · rcases jumping with rfl | rfl
    · exact .inr (targets_of_perform_jump done cursor)
    · exact targets_of_perform_branch done cursor
  · have committed := commits_perform keyword source session
    rw [done] at committed
    have moved : session.program.Moved keyword after.program := committed.1
    generalize after.program = reached at moved cursor
    cases moved with
    | advances => exact .inl cursor
    | halts => cases cursor
    | jumps other => exact absurd other jumping

theorem OnLine.cursor_of_execute (onLine : session.OnLine number statement)
    (done : execute statement session = .ok () after) (cursor : after.program.cursor = some next) :
    session.program.above? number = some next ∨ statement.Targets next := by
  obtain ⟨keyword, known, _, counted⟩ := execute_ok_cases done
  obtain ⟨kind, source⟩ := statement
  obtain rfl : kind = .known keyword := known
  obtain ⟨noted, handed⟩ := execute_known keyword source counted.symm
  rw [handed] at done
  refine (cursor_of_perform done cursor).imp_left fun advanced => ?_
  have here : session.program.advance.cursor = session.program.above? number := by
    rw [Program.advance, onLine.cursor, Option.bind_some]
  exact here.symm.trans advanced

theorem OnLine.mem_numbers (onLine : session.OnLine number statement) : number ∈ session.program.numbers :=
  List.mem_map_of_mem (Program.mem_of_get? onLine.stored)

/-- In a program that only jumps forward, each turn leads to a higher line. -/
theorem OnLine.lt_of_execute (onLine : session.OnLine number statement) (proper : session.program.Proper)
    (forward : session.program.Forward) (done : execute statement session = .ok () after)
    (cursor : after.program.cursor = some next) : number < next := by
  have stored := Program.mem_of_get? onLine.stored
  rcases onLine.cursor_of_execute done cursor with above | targets
  · simpa using List.find?_some above
  · obtain ⟨checked, keyword, starts, known⟩ := proper.checked _ stored
    obtain ⟨kind, source⟩ := statement
    obtain rfl : kind = .known keyword := known
    exact forward _ stored next (targets.namesLine checked starts)

/-- A statement neither looks at the budget nor takes from it, so that it may be thought to
    be 1. Then it is not spent. -/
theorem perform_ne_stepLimit : perform keyword source session ≠ .error .stepLimit after := by
  intro failed
  have abreast : Abreast session { session with budget := 1 } := ⟨rfl, rfl, rfl⟩
  have enacts : enact ⟨.known keyword, source⟩ session = .error .stepLimit after := failed
  obtain ⟨other, failed', _⟩ := abreast.enact_error enacts
  have committed := commits_perform keyword source { session with budget := 1 }
  change perform keyword source { session with budget := 1 } = _ at failed'
  rw [failed'] at committed
  have unspent : other.budget = 1 := congrArg Prod.snd committed
  have contained : Contained (fun _ => True) (perform keyword source) := contained_perform keyword trivial
  rcases contained failed' with ⟨_, fault⟩ | escapes
  · cases fault
  · cases escapes with
    | exhausted spent =>
      rw [unspent] at spent
      cases spent

/-- Only a spent budget makes a statement meet the limit. -/
theorem budget_of_stepLimit (failed : execute statement session = .error .stepLimit after) : session.budget = 0 := by
  by_contra some
  obtain ⟨left, budget⟩ := Nat.exists_eq_succ_of_ne_zero some
  obtain ⟨kind, source⟩ := statement
  cases kind with
  | unknown name =>
    simp only [execute, Step.bind_apply, countDown, budget, Step.fail_apply] at failed
    cases failed
  | known keyword =>
    obtain ⟨noted, handed⟩ := execute_known keyword source budget
    rw [handed] at failed
    exact perform_ne_stepLimit failed

/-! ### Runs -/

theorem Turns.traverses {last : Session} (turns : Turns session last) (ends : Ends last result) :
    ∃ numbers, Traverses session numbers result := by
  induction turns using Relation.ReflTransGen.head_induction_on with
  | refl =>
    cases ends with
    | finished nowhere => exact ⟨[], .finished nowhere⟩
    | @failed number _ _ _ onLine fails => exact ⟨[number], .failed onLine fails⟩
  | head turn _ ih =>
    obtain ⟨number, statement, onLine, done⟩ := turn
    obtain ⟨numbers, later⟩ := ih
    exact ⟨number :: numbers, .turn onLine done later⟩

namespace Traverses

theorem head?_eq (traverses : Traverses session numbers result) : numbers.head? = session.program.cursor := by
  cases traverses with
  | finished nowhere => exact nowhere.symm
  | failed onLine | turn onLine => exact onLine.cursor.symm

/-- The lines that a run comes to are in the program. -/
theorem mem_numbers (traverses : Traverses session numbers result) :
    ∀ number ∈ numbers, number ∈ session.program.numbers := by
  induction traverses with
  | finished => simp
  | failed onLine => simpa using onLine.mem_numbers
  | turn onLine done _ ih =>
    obtain ⟨_, _, moved, _⟩ := execute_ok_cases done
    rw [Program.numbers, moved.lines_eq] at ih
    exact List.forall_mem_cons.2 ⟨onLine.mem_numbers, ih⟩

theorem isChain (traverses : Traverses session numbers result) (proper : session.program.Proper)
    (forward : session.program.Forward) : numbers.IsChain (· < ·) := by
  induction traverses with
  | finished => exact .nil
  | failed => exact .singleton _
  | @turn session next number _ numbers _ onLine done later ih =>
    obtain ⟨_, _, moved, _⟩ := execute_ok_cases done
    have chain := ih (proper.of_lines moved.lines_eq) (forward.of_lines moved.lines_eq)
    refine List.isChain_cons.2 ⟨fun other first => ?_, chain⟩
    exact onLine.lt_of_execute proper forward done (later.head?_eq ▸ first)

/-- The numbers ascend, and there are no more of them than lines. -/
theorem ascends (traverses : Traverses session numbers result) (proper : session.program.Proper)
    (forward : session.program.Forward) :
    numbers.Pairwise (· < ·) ∧ (∀ number ∈ numbers, session.program.contains number = true) ∧
      numbers.length ≤ session.program.size := by
  have ascending := (traverses.isChain proper forward).pairwise
  refine ⟨ascending, fun number member => Program.mem_numbers_iff.1 (traverses.mem_numbers number member), ?_⟩
  have once : numbers.Nodup := ascending.imp ne_of_lt
  have fewer := (List.subperm_of_subset once traverses.mem_numbers).length_le
  rwa [Program.numbers, List.length_map] at fewer

/-- Each turn takes one from the budget, so that a run meets the limit only at the end of it. -/
theorem budget_lt (traverses : Traverses session numbers (.error .stepLimit after)) :
    session.budget < numbers.length := by
  generalize ended : (.error .stepLimit after : EStateM.Result Stop Session Unit) = result at traverses
  induction traverses with
  | finished => cases ended
  | failed onLine fails =>
    cases ended
    rw [budget_of_stepLimit fails]
    exact Nat.zero_lt_one
  | turn _ done _ ih =>
    obtain ⟨_, _, _, counted⟩ := execute_ok_cases done
    have less := ih ended
    rw [List.length_cons]
    omega

end Traverses

theorem exists_traverses (start : Session) :
    ∃ numbers result, Traverses start.started numbers result ∧ run start = concluded result := by
  obtain ⟨last, result, turns, ends, ran⟩ := run_ends start
  obtain ⟨numbers, traverses⟩ := turns.traverses ends
  exact ⟨numbers, result, traverses, ran⟩

/-- With some budget for every line, no run of a program that only jumps forward meets the limit. -/
theorem run_ne_stepLimit (start : Session) (proper : start.program.Proper) (forward : start.program.Forward)
    (enough : start.program.size ≤ start.budget) : run start ≠ .error .stepLimit after := by
  intro limited
  obtain ⟨numbers, result, traverses, ran⟩ := exists_traverses start
  obtain ⟨_, _, fewer⟩ := traverses.ascends (proper.of_lines rfl) (forward.of_lines rfl)
  rw [ran] at limited
  cases result with
  | ok => cases limited
  | error stop reached =>
    obtain rfl : stop = .stepLimit := (EStateM.Result.error.inj limited).1
    have spent : start.budget < numbers.length := traverses.budget_lt
    have upTo : numbers.length ≤ start.program.size := fewer
    omega

/-- If the jumps and branches of a program that comes about lead forward, then a run of it,
    from whatever variables and with whatever replies, comes to lines of the program in the
    order of their numbers, and to none of them twice. If as many statements may be executed
    as there are lines, it is not the limit that it ends with. -/
theorem Reachable.run_ascends (reachable : session.Reachable) (forward : session.program.Forward) {start : Session}
    (same : start.program = session.program) :
    (∃ numbers result, Traverses start.started numbers result ∧ run start = concluded result ∧
        numbers.Pairwise (· < ·) ∧ (∀ number ∈ numbers, session.program.contains number = true) ∧
        numbers.length ≤ session.program.size) ∧
      (session.program.size ≤ start.budget → ∀ after, run start ≠ .error .stepLimit after) ∧
      ∃ ending, RunEnds start ending := by
  have proper := reachable.proper.program
  rw [← same] at proper forward ⊢
  refine ⟨?_, fun enough after => run_ne_stepLimit start proper forward enough, ?_⟩
  · obtain ⟨numbers, result, traverses, ran⟩ := exists_traverses start
    exact ⟨numbers, result, traverses, ran, traverses.ascends (proper.of_lines rfl) (forward.of_lines rfl)⟩
  · refine ⟨Ending.of (run { start with budget := start.program.size }), ?_, _, rfl⟩
    cases ended : run { start with budget := start.program.size } with
    | ok answer after => simp [Ending.of]
    | error stop after =>
      intro limited
      obtain rfl : stop = .stepLimit := Except.error.inj limited
      exact run_ne_stepLimit { start with budget := start.program.size } proper forward le_rfl ended

/-- After `20 IF A < 5 THEN 40`, the reply `3` leads past `30 GOTO 50`, which would find no line. -/
theorem run_ascends_branching :
    ∃ session start : Session, session.Reachable ∧ session.program.size = 4 ∧ session.program.Forward ∧
      start.program = session.program ∧ (run.outcome start).1 = .ok () ∧
      (∃ numbers result, Traverses start.started numbers result ∧ run start = concluded result ∧
        numbers.Pairwise (· < ·) ∧ (∀ number ∈ numbers, session.program.contains number = true) ∧
        numbers.length ≤ session.program.size) ∧
      (∀ after, run start ≠ .error .stepLimit after) ∧ ∃ ending, RunEnds start ending := by
  have reachable := ((((Reachable.fresh {} 1).call (.accept "40 PRINT A")).call (.accept "30 GOTO 50")).call
    (.accept "20 IF A < 5 THEN 40")).call (.accept "10 INPUT A")
  have lines : ((Call.accept "10 INPUT A").action.reached ((Call.accept "20 IF A < 5 THEN 40").action.reached
      ((Call.accept "30 GOTO 50").action.reached ((Call.accept "40 PRINT A").action.reached
        { budget := 1 })))).program.lines =
        [(10, ⟨.known .input, "INPUT A"⟩), (20, ⟨.known .branch, "IF A < 5 THEN 40"⟩),
          (30, ⟨.known .jump, "GOTO 50"⟩), (40, ⟨.known .print, "PRINT A"⟩)] := by decide +kernel
  have ends : (run.outcome { (Call.accept "10 INPUT A").action.reached
      ((Call.accept "20 IF A < 5 THEN 40").action.reached ((Call.accept "30 GOTO 50").action.reached
        ((Call.accept "40 PRINT A").action.reached { budget := 1 }))) with
          vars := ⟨[("A", 9)]⟩, console := { replies := [.line "x", .line "3"] }, budget := 4 }).1 = .ok () := by
    decide +kernel
  generalize (Call.accept "10 INPUT A").action.reached ((Call.accept "20 IF A < 5 THEN 40").action.reached
    ((Call.accept "30 GOTO 50").action.reached ((Call.accept "40 PRINT A").action.reached { budget := 1 }))) =
      session at reachable lines ends
  obtain ⟨start, ends, same, budget⟩ : ∃ start : Session, (run.outcome start).1 = .ok () ∧
      start.program = session.program ∧ start.budget = 4 := ⟨_, ends, rfl, rfl⟩
  have size : session.program.size = 4 := congrArg List.length lines
  have forward : session.program.Forward := by
    unfold Program.Forward
    rw [lines, List.forall_mem_cons, List.forall_mem_cons, List.forall_mem_cons, List.forall_mem_singleton]
    refine ⟨?_, ?_, ?_, ?_⟩
    · intro target names
      cases names
    · intro target names
      have tokens : tokenize "IF A < 5 THEN 40" = .ok ([⟨.word, "IF"⟩, ⟨.word, "A"⟩, ⟨.operator, "<"⟩, ⟨.number, "5"⟩,
          ⟨.word, "THEN"⟩] ++ [⟨.number, "40"⟩]) := by decide +kernel
      rw [names.eq_value tokens]
      decide
    · intro target names
      have tokens : tokenize "GOTO 50" = .ok ([⟨.word, "GOTO"⟩] ++ [⟨.number, "50"⟩]) := by decide +kernel
      rw [names.eq_value tokens]
      decide
    · intro target names
      cases names
  obtain ⟨ascends, unlimited, ending⟩ := reachable.run_ascends forward same
  exact ⟨session, start, reachable, size, forward, same, ends, ascends, unlimited (size.trans budget.symm).le, ending⟩

end Session

end LineBasic
