import Mathlib
import LineBasic.Proofs.Session.Entering
import LineBasic.Proofs.Step.Agree

/-!
Straight-line programs: lines whose statements could also be typed at once. Such a
statement does not look at the program, and moves the cursor to the next line when
it is done (`agree_execute`). So a run of the program goes through the lines in
order and does what typing them does (`agree_continueRun`), whatever the order in
which they were entered (`run_eq_typed`).
-/
namespace LineBasic.Session

/-- The sessions differ at most in their programs and their logs. -/
structure Alike (one other : Session) : Prop where
  vars : one.vars = other.vars
  console : one.console = other.console
  budget : one.budget = other.budget

/-- The sessions are alike, and the first has a given program and budget. -/
structure AlikeAt (program : Program) (budget : Nat) (one other : Session) : Prop where
  alike : Alike one other
  program : one.program = program
  budget : one.budget = budget

/-- One statement has been taken from the budget, which was not empty. -/
def AlikeAfter (program : Program) : Nat → Session → Session → Prop
  | 0 => fun _ _ => False
  | budget + 1 => AlikeAt program budget

/-- The program and the log of the first session do not matter. -/
theorem Alike.edited {one other : Session} (alike : Alike one other) (program : Program) (noted : List LogEntry) :
    Alike { one with program := program, noted := noted } other :=
  ⟨alike.vars, alike.console, alike.budget⟩

variable {program : Program} {budget : Nat}

/-! ### Statements that do not look at the program -/

theorem agree_onVariables {α : Type} (action : Step Variables α) :
    Step.Agree (AlikeAt program budget) (AlikeAt program budget) Alike (onVariables action) (onVariables action) := by
  refine Step.agree_onPart action (fun _ _ related => related.alike.vars) ?_ ?_
  · exact fun _ _ _ related => ⟨⟨rfl, related.alike.console, related.alike.budget⟩, related.program, related.budget⟩
  · exact fun _ _ _ related => ⟨rfl, related.alike.console, related.alike.budget⟩

theorem agree_onConsole {α : Type} (action : Step Console α) :
    Step.Agree (AlikeAt program budget) (AlikeAt program budget) Alike (onConsole action) (onConsole action) := by
  refine Step.agree_onPart action (fun _ _ related => related.alike.console) ?_ ?_
  · exact fun _ _ _ related => ⟨⟨related.alike.vars, rfl, related.alike.budget⟩, related.program, related.budget⟩
  · exact fun _ _ _ related => ⟨related.alike.vars, rfl, related.alike.budget⟩

/-- What is noted may differ. -/
theorem agree_note (level : LogLevel) (source : LogSource) (text text' : String) :
    Step.Agree (AlikeAt program budget) (AlikeAt program budget) Alike (note level source text)
      (note level source text') := by
  refine Step.agree_modify fun one other related => ?_
  exact ⟨⟨related.alike.vars, related.alike.console, related.alike.budget⟩, related.program, related.budget⟩

theorem agree_reading {α : Type} (result : Except Stop α) :
    Step.Agree (AlikeAt program budget) (AlikeAt program budget) Alike (Step.ofExcept result : Action α)
      (Step.ofExcept result) :=
  Step.agree_ofExcept result fun _ _ related => related.alike

theorem agree_askInteger (bound : Nat) :
    Step.Agree (AlikeAt program budget) (AlikeAt program budget) Alike (askInteger bound) (askInteger bound) := by
  induction bound with
  | zero => exact Step.agree_throw _ fun _ _ related => related.alike
  | succ bound ih =>
    refine (agree_onConsole _).bind fun reply => ?_
    cases Decimal.readReply reply with
    | ok value => exact Step.agree_pure value fun _ _ related => related
    | error stop =>
      cases stop with
      | fault cause => exact (agree_note _ _ _ _).bind fun _ => (agree_onConsole _).bind fun _ => ih
      | _ => exact Step.agree_throw _ fun _ _ related => related.alike

theorem agree_advance :
    Step.Agree (AlikeAt program budget) (AlikeAt program.advance budget) Alike advance advance := by
  refine Step.agree_modify fun one other related => ?_
  have moved : one.program.advance = program.advance := by rw [related.program]
  exact ⟨⟨related.alike.vars, related.alike.console, related.alike.budget⟩, moved, related.budget⟩

theorem agree_perform {keyword : Keyword} (immediate : keyword.isImmediate = true) (source : String) :
    Step.Agree (AlikeAt program budget) (AlikeAt program.advance budget) Alike (perform keyword source)
      (perform keyword source) := by
  cases keyword with
  | remark | stop | jump | branch => cases immediate
  | assign =>
    refine (agree_reading _).bind fun answer => (agree_onVariables _).bind fun value => ?_
    exact (agree_onVariables _).bind fun _ => agree_advance
  | print =>
    refine Step.Agree.bind ((agree_reading _).bind fun expression => agree_onVariables expression.eval) fun value => ?_
    exact (agree_onConsole _).bind fun _ => agree_advance
  | input =>
    refine (agree_reading _).bind fun name => Step.agree_get_bind fun one other related => ?_
    rw [related.alike.console]
    exact (agree_askInteger _).bind fun value => (agree_onVariables _).bind fun _ => agree_advance

theorem agree_countDown :
    Step.Agree (AlikeAt program budget) (AlikeAfter program budget) Alike countDown countDown := by
  intro one other related
  obtain ⟨⟨vars, console, same⟩, at_program, left⟩ := related
  unfold countDown
  rw [← same, left]
  cases budget with
  | zero => exact .inr ⟨_, one, other, rfl, rfl, vars, console, same⟩
  | succ budget => exact .inl ⟨⟨⟩, _, _, rfl, rfl, ⟨vars, console, rfl⟩, at_program, rfl⟩

/-- A statement that could be typed at once does the same in alike sessions, and
    then moves the cursor to the next line. -/
theorem agree_execute {keyword : Keyword} (immediate : keyword.isImmediate = true) (source : String) :
    Step.Agree (AlikeAt program budget) (AlikeAfter program.advance budget) Alike (execute ⟨.known keyword, source⟩)
      (execute ⟨.known keyword, source⟩) := by
  refine agree_countDown.bind fun _ => ?_
  cases budget with
  | zero => exact fun _ _ impossible => impossible.elim
  | succ budget =>
    refine Step.agree_get_bind fun one other _ => ?_
    exact (agree_note _ _ _ _).bind fun _ => agree_perform immediate source

/-! ### Runs -/

/-- The line starts with `LET`, `PRINT` or `INPUT`. -/
def Straight (line : Int × String) : Prop :=
  ∃ keyword, Statement.keyword? line.2 = .ok (some keyword) ∧ keyword ∈ [.assign, .print, .input]

theorem Straight.accept_eq {line : Int × String} (straight : Straight line) :
    ∃ keyword : Keyword, keyword.isImmediate = true ∧ Statement.ofLine line.2 = ⟨.known keyword, Text.trim line.2⟩ ∧
      accept line.2 = execute (Statement.ofLine line.2) := by
  obtain ⟨keyword, starts, one⟩ := straight
  have immediate : keyword.isImmediate = true := by
    revert one
    cases keyword <;> decide
  exact ⟨keyword, immediate, by simp only [Statement.ofLine, starts], accept_immediate starts immediate⟩

/-- Types the texts of lines, without their numbers. -/
def typeTexts (lines : List (Int × String)) : Action Unit := lines.forM fun line => accept line.2

/-- From the line on which the cursor stands, a run does what typing the rest of the
    lines does. -/
theorem agree_continueRun {passed rest : List (Int × String)} (ordered : Program.Ordered program.lines)
    (split : program.lines = (passed ++ rest).map kept) (cursor : program.cursor = (rest.map Prod.fst).head?)
    (straight : ∀ line ∈ rest, Straight line) {bound : Nat} (enough : budget < bound) :
    Step.Agree (AlikeAt program budget) Alike Alike (continueRun bound) (typeTexts rest) := by
  induction rest generalizing program passed budget bound with
  | nil =>
    obtain ⟨bound, rfl⟩ := Nat.exists_eq_succ_of_ne_zero (Nat.ne_zero_of_lt enough)
    refine Step.agree_get_left fun one other related => ?_
    rw [related.program, cursor]
    exact Step.agree_pure _ fun _ _ related => related.alike
  | cons line later ih =>
    obtain ⟨bound, rfl⟩ := Nat.exists_eq_succ_of_ne_zero (Nat.ne_zero_of_lt enough)
    obtain ⟨straightFirst, straightLater⟩ := List.forall_mem_cons.1 straight
    obtain ⟨keyword, immediate, statement, typed⟩ := straightFirst.accept_eq
    have stored : program.get? line.1 = some (Statement.ofLine line.2) := by
      refine Program.get?_of_mem ordered ?_
      rw [split]
      exact List.mem_map.2 ⟨line, by simp, rfl⟩
    refine Step.agree_get_left fun one other related => ?_
    rw [related.program, cursor]
    refine Step.agree_known_left (Statement.ofLine line.2) (fun one other related => ?_) ?_
    · simp only [onProgram, Step.onPart, Program.fetch, related.program, stored]
      rw [← related.program]
    · change Step.Agree _ _ _ _ (accept line.2 >>= fun _ => typeTexts later)
      rw [typed, statement]
      refine (agree_execute immediate _).bind fun _ => ?_
      cases budget with
      | zero => exact fun _ _ impossible => impossible.elim
      | succ budget =>
        have next : program.advance.cursor = (later.map Prod.fst).head? := by
          have parts : program.lines = passed.map kept ++ kept line :: later.map kept := by
            rw [split, List.map_append, List.map_cons]
          have above := Program.above?_of_split ordered parts
          rw [List.map_map] at above
          rw [Program.advance, cursor]
          exact above
        have splitNext : program.advance.lines = ((passed ++ [line]) ++ later).map kept := by
          rw [List.append_assoc]
          exact split
        have orderedNext : Program.Ordered program.advance.lines := ordered
        exact ih orderedNext splitNext next straightLater (by omega)

/-- From the start of a program of such lines, a run does what typing them does. -/
theorem agree_run {lines : List (Int × String)} (ascending : lines.Pairwise fun line later => line.1 < later.1)
    (straight : ∀ line ∈ lines, Straight line) (stored : program.lines = lines.map kept) :
    Step.Agree (AlikeAt program budget) Alike Alike run (typeTexts lines) := by
  have ordered : Program.Ordered program.lines := by
    rw [stored]
    exact List.pairwise_map.2 ascending
  have started : program.start.cursor = (lines.map Prod.fst).head? := by
    rw [Program.start, Program.first?, Program.numbers, stored, List.map_map]
    rfl
  have going : Step.Agree (AlikeAt program.start budget) Alike Alike (do continueRun ((← get).budget + 1))
      (typeTexts lines) := by
    refine Step.agree_get_left fun one other related => ?_
    have orderedStart : Program.Ordered program.start.lines := ordered
    have splitStart : program.start.lines = ([] ++ lines).map kept := stored
    rw [related.budget]
    exact agree_continueRun orderedStart splitStart started straight (Nat.lt_succ_self budget)
  refine Step.agree_get_left fun one other _ => ?_
  refine Step.agree_modify_left (AlikeAt program budget) (fun one other related => ?_) ?_
  · exact ⟨related.alike.edited _ _, related.program, related.budget⟩
  refine Step.agree_modify_left (AlikeAt program.start budget) (fun one other related => ?_) ?_
  · have moved : one.program.start = program.start := by rw [related.program]
    exact ⟨related.alike.edited _ _, moved, related.budget⟩
  have blind := fun (one other : Session) (alike : Alike one other) => alike.edited one.program.halt one.noted
  refine (going.ensuring_left blind blind).modify_after_left fun one other alike => ?_
  exact alike.edited _ _

/-- Lines that could be typed at once are entered in any order and run, or typed
    without their numbers in ascending order from the same variables and replies:
    both end in the same way, with the same variables and on the same console. -/
theorem run_eq_typed {lines order : List (Int × String)}
    (ascending : lines.Pairwise fun line later => line.1 < later.1) (storable : ∀ line ∈ lines, Storable line)
    (straight : ∀ line ∈ lines, Straight line) (same : order.Perm lines) {session typed : Session}
    (empty : session.program.lines = []) (vars : session.vars = typed.vars) (console : session.console = typed.console)
    (budget : session.budget = typed.budget) :
    ∃ entered, enter order session = .ok () entered ∧ entered.vars = session.vars ∧ entered.console = session.console ∧
      (run.outcome entered).1 = ((typeTexts lines).outcome typed).1 ∧
      (run.outcome entered).2.vars = ((typeTexts lines).outcome typed).2.vars ∧
      (run.outcome entered).2.console = ((typeTexts lines).outcome typed).2.console := by
  obtain ⟨noted, entered⟩ := enter_apply storable ascending same empty
  refine ⟨_, entered, rfl, rfl, ?_⟩
  have agree : Step.Agree (AlikeAt { session.program with lines := lines.map kept } session.budget) Alike Alike run
      (typeTexts lines) :=
    agree_run ascending straight rfl
  have related : AlikeAt { session.program with lines := lines.map kept } session.budget
      { session with program := { session.program with lines := lines.map kept }, noted := noted } typed :=
    ⟨⟨vars, console, budget⟩, rfl, rfl⟩
  obtain ⟨ended, alike⟩ := agree.outcome related
  exact ⟨ended, alike.vars, alike.console⟩

/-- `INPUT A` and `PRINT 7 / A`, entered the other way round, fail on the reply `0`
    as they do when they are typed. -/
theorem run_eq_typed_division :
    ∃ entered,
      enter [(20, "PRINT 7 / A"), (10, "INPUT A ")]
        { console := { replies := [.line "two", .line "0", .line "1"] }, budget := 9 } = .ok () entered ∧
      (run.outcome entered).1 = .error (.fault .divisionByZero) ∧
      (run.outcome entered).2.vars.entries = [("A", 0)] ∧
      (run.outcome entered).2.console.transcript =
        [.prompt inputPrompt, .line Fault.invalidNumber.message, .prompt inputPrompt] := by
  have ascending : [(10, "INPUT A "), ((20 : Int), "PRINT 7 / A")].Pairwise fun line later => line.1 < later.1 := by
    decide
  have storable : ∀ line ∈ [(10, "INPUT A "), ((20 : Int), "PRINT 7 / A")], Storable line := by
    rw [List.forall_mem_cons, List.forall_mem_singleton]
    exact ⟨⟨by decide, by decide, by decide +kernel⟩, ⟨by decide, by decide, by decide +kernel⟩⟩
  have straight : ∀ line ∈ [(10, "INPUT A "), ((20 : Int), "PRINT 7 / A")], Straight line := by
    rw [List.forall_mem_cons, List.forall_mem_singleton]
    exact ⟨⟨.input, by decide +kernel, by decide⟩, ⟨.print, by decide +kernel, by decide⟩⟩
  have empty : ({ console := { replies := [.line "two", .line "0", .line "1"] }, budget := 9 } : Session).program.lines = [] :=
    rfl
  obtain ⟨entered, done, _, _, ended, vars, console⟩ :=
    run_eq_typed ascending storable straight (List.Perm.swap _ _ []) empty rfl rfl rfl
  refine ⟨entered, done, ?_, ?_, ?_⟩
  · rw [ended]
    decide +kernel
  · rw [vars]
    decide +kernel
  · rw [console]
    decide +kernel

end LineBasic.Session
