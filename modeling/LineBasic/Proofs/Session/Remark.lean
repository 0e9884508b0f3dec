import Mathlib
import LineBasic.Proofs.Program.Insertion
import LineBasic.Proofs.Session.Entering
import LineBasic.Proofs.Session.Unlimited

/-!
Remarks do not matter. A line that starts with `REM` is put under a free number that no line
jumps to. A run then makes one turn more wherever it comes past the new line, and is
otherwise the same: after every turn the two runs stand on the same line, or the second one
on the remark and the first one on the line after it (`Passing`). So both runs end, in the
same way, or neither does (`Reachable.runEnds_remark`).
-/
namespace LineBasic

namespace Program

/-- Another line can be put under the number, and nothing leads to it but the line before:
    it is free, the cursor does not stand on it, and no line jumps to it. -/
structure Spares (program : Program) (number : Int) : Prop where
  ordered : Ordered program.lines
  fresh : program.contains number = false
  cursor : program.CursorStored
  untargeted : ∀ line ∈ program.lines, ¬ line.2.Targets number

/-- The program with one more line, and its cursor where it is without, or on the new line
    before that. -/
inductive Joined (number : Int) (remark : Statement) (program : Program) : Program → Prop
  | level : Joined number remark program (program.insert number remark)
  | before (next : program.cursor = program.above? number) :
      Joined number remark program { program.insert number remark with cursor := some number }

variable {program next : Program} {number : Int} {remark : Statement}

theorem Spares.of_lines (spares : program.Spares number) (same : next.lines = program.lines)
    (cursor : next.CursorStored) : next.Spares number := by
  refine ⟨same ▸ spares.ordered, ?_, cursor, same ▸ spares.untargeted⟩
  have fresh := spares.fresh
  unfold contains get? at fresh ⊢
  rwa [same]

theorem Spares.moved (spares : program.Spares number) {keyword : Keyword} (moved : program.Moved keyword next) :
    next.Spares number :=
  spares.of_lines moved.lines_eq moved.cursorStored

theorem Spares.start (spares : program.Spares number) : program.start.Spares number :=
  spares.of_lines rfl (cursorStored_start program)

theorem Spares.ne_of_stored (spares : program.Spares number) {other : Int} (stored : program.contains other = true) :
    other ≠ number := by
  rintro rfl
  rw [spares.fresh] at stored
  cases stored

theorem Spares.joined_advance (spares : program.Spares number) :
    Joined number remark program.advance (program.insert number remark).advance := by
  obtain ⟨lines, cursor⟩ := program
  cases cursor with
  | none => exact .level
  | some line =>
    have next : (insert ⟨lines, some line⟩ number remark).advance =
      { insert ⟨lines, some line⟩ number remark with
        cursor := (insert ⟨lines, some line⟩ number remark).above? line } := rfl
    rw [next]
    rcases above?_insert_cases spares.ordered spares.fresh line with same | ⟨here, after⟩
    · rw [same]
      exact .level
    · rw [here]
      exact .before after

theorem Spares.joined_start (spares : program.Spares number) :
    Joined number remark program.start (program.insert number remark).start := by
  have next : (program.insert number remark).start =
    { program.insert number remark with cursor := (program.insert number remark).first? } := rfl
  rw [next]
  rcases first?_insert_cases program number remark spares.fresh with same | ⟨here, after⟩
  · rw [same]
    exact .level
  · rw [here]
    exact .before after

end Program

namespace Session

/-- The second session has one line more, and is otherwise as far as the first. -/
structure Beside (number : Int) (remark : Statement) (one other : Session) : Prop where
  spares : one.program.Spares number
  program : other.program = one.program.insert number remark
  vars : one.vars = other.vars
  console : one.console = other.console

/-- The second session has one line more, and is otherwise as far as the first or about to
    pass that line. -/
structure Passing (number : Int) (remark : Statement) (one other : Session) : Prop where
  spares : one.program.Spares number
  joined : one.program.Joined number remark other.program
  vars : one.vars = other.vars
  console : one.console = other.console

variable {number : Int} {remark statement : Statement} {source : String} {one other : Session} {ending : Ending}

theorem Beside.passing (beside : Beside number remark one other) : Passing number remark one other :=
  ⟨beside.spares, beside.program ▸ .level, beside.vars, beside.console⟩

/-! ### Turns -/

theorem Beside.onLine_iff (beside : Beside number remark one other) {line : Int} :
    one.OnLine line statement ↔ other.OnLine line statement := by
  have cursor : other.program.cursor = one.program.cursor := by
    rw [beside.program]
    rfl
  have stored : one.program.cursor = some line → other.program.get? line = one.program.get? line := by
    intro here
    rw [beside.program, Program.get?_insert, if_neg (beside.spares.ne_of_stored (beside.spares.cursor line here))]
  constructor
  · exact fun onLine => ⟨cursor.trans onLine.cursor, (stored onLine.cursor).trans onLine.stored⟩
  · intro onLine
    have here := cursor.symm.trans onLine.cursor
    exact ⟨here, (stored here).symm.trans onLine.stored⟩

/-- A statement that does not jump to the new line does the same on both sides. -/
theorem agree_enact_beside (elsewhere : ¬ statement.Targets number) :
    Step.Agree (Beside number remark) (Passing number remark) (Beside number remark) (enact statement)
      (enact statement) := by
  have respected : Respected (fun _ => False) (Beside number remark) :=
    respected_of_kept fun one other same =>
      ⟨same.vars, same.console, fun _ _ _ _ => ⟨same.spares, same.program, rfl, rfl⟩⟩
  obtain ⟨kind, source⟩ := statement
  cases kind with
  | unknown name => exact Step.agree_throw _ fun _ _ same => same
  | known keyword =>
    refine Step.AgreeUnless.always (respected.perform rfl (fun _ => ?_) (fun _ => ?_) fun target targets => ?_)
    · refine Step.Agree.never_lost (Step.agree_modify fun one other same => ?_)
      have advanced : other.program.advance = (one.program.insert number remark).advance := by rw [same.program]
      have moved : one.program.Moved .remark one.program.advance := .advances (by decide)
      exact ⟨same.spares.moved moved, advanced ▸ same.spares.joined_advance, same.vars, same.console⟩
    · refine Step.Agree.never_lost (Step.agree_modify fun one other same => ?_)
      have halted : other.program.halt = one.program.halt.insert number remark := by rw [same.program]; rfl
      exact ⟨same.spares.moved .halts, halted ▸ .level, same.vars, same.console⟩
    · refine Step.Agree.never_lost fun one other same => ?_
      have apart : target ≠ number := by
        rintro rfl
        exact elsewhere targets
      have contains : other.program.contains target = one.program.contains target := by
        rw [same.program, Program.contains_insert apart]
      rw [jump_apply, jump_apply, contains]
      by_cases stored : one.program.contains target = true
      · rw [if_pos stored, if_pos stored]
        have moved := same.spares.moved (Program.Moved.jumps (.inl rfl) stored)
        have jumped : { other.program with cursor := some target } =
            Program.insert { one.program with cursor := some target } number remark := by rw [same.program]; rfl
        exact .inl ⟨(), _, _, rfl, rfl, moved, jumped ▸ .level, same.vars, same.console⟩
      · rw [if_neg stored, if_neg stored]
        exact .inr ⟨_, one, other, rfl, rfl, same⟩

/-- A session that is passing the new line is as far as the other, or takes one more turn to
    be so. -/
theorem Passing.cases (passing : Passing number ⟨.known .remark, source⟩ one other) :
    Beside number ⟨.known .remark, source⟩ one other ∨
      ∃ next, other.OnLine number ⟨.known .remark, source⟩ ∧ enact ⟨.known .remark, source⟩ other = .ok () next ∧
        Beside number ⟨.known .remark, source⟩ one next := by
  obtain ⟨spares, joined, vars, console⟩ := passing
  obtain ⟨inserted, same⟩ : ∃ program, other.program = program := ⟨_, rfl⟩
  rw [same] at joined
  cases joined with
  | level => exact .inl ⟨spares, same, vars, console⟩
  | before next =>
    refine .inr ⟨{ other with program := other.program.advance }, ⟨?_, ?_⟩, rfl, spares, ?_, vars, console⟩
    · rw [same]
    · rw [same]
      exact (Program.get?_insert one.program number _ number).trans (if_pos rfl)
    · have onward : (Program.insert one.program number ⟨.known .remark, source⟩).above? number =
          one.program.cursor := by
        rw [Program.above?_insert_self spares.fresh, next]
      rw [same]
      show { one.program.insert number ⟨.known .remark, source⟩ with
        cursor := (one.program.insert number ⟨.known .remark, source⟩).above? number } = _
      rw [onward]
      rfl

/-- A statement of the first session does the same in both. -/
theorem Beside.agree_enact (beside : Beside number remark one other) {line : Int} (onLine : one.OnLine line statement) :
    Step.Agree (fun one' other' => one' = one ∧ other' = other) (Passing number remark) (Beside number remark)
      (enact statement) (enact statement) := by
  rintro _ _ ⟨rfl, rfl⟩
  exact agree_enact_beside (beside.spares.untargeted _ (Program.mem_of_get? onLine.stored)) beside

/-! ### Runs -/

/-- What is settled as far as the first session is settled before the new line too. -/
theorem Passing.settles (passing : Passing number ⟨.known .remark, source⟩ one other)
    (level : ∀ next, Beside number ⟨.known .remark, source⟩ one next → Settles next ending) : Settles other ending := by
  rcases passing.cases with beside | ⟨next, onLine, done, beside⟩
  · exact level other beside
  · exact .turn onLine done (level next beside)

theorem Beside.settles (settles : Settles one ending) (beside : Beside number ⟨.known .remark, source⟩ one other) :
    Settles other ending := by
  induction settles generalizing other with
  | @finished session nowhere =>
    have nowhere' : other.program.cursor = none := by
      rw [beside.program]
      exact nowhere
    rw [beside.vars, beside.console]
    exact .finished nowhere'
  | failed onLine fails limit =>
    rcases beside.agree_enact onLine ⟨rfl, rfl⟩ with ⟨_, _, _, done, _, _⟩ | ⟨stop, _, after', failed, fails', kept⟩
    · rw [fails] at done
      cases done
    · rw [fails] at failed
      cases failed
      rw [kept.vars, kept.console]
      exact .failed (beside.onLine_iff.1 onLine) fails' limit
  | turn onLine done _ ih =>
    rcases beside.agree_enact onLine ⟨rfl, rfl⟩ with ⟨_, _, next', done', ended, passing⟩ | ⟨stop, _, _, failed, _, _⟩
    · rw [done] at done'
      cases done'
      exact .turn (beside.onLine_iff.1 onLine) ended (passing.settles fun level beside => ih beside)
    · rw [done] at failed
      cases failed

theorem Passing.settles_without (settles : Settles other ending)
    (passing : Passing number ⟨.known .remark, source⟩ one other) : Settles one ending := by
  induction settles generalizing one with
  | @finished session nowhere =>
    rcases passing.cases with beside | ⟨next, onLine, _, _⟩
    · rw [← beside.vars, ← beside.console]
      rw [beside.program] at nowhere
      exact .finished nowhere
    · exact absurd nowhere onLine.not_nowhere
  | failed onLine fails limit =>
    rcases passing.cases with beside | ⟨next, onRemark, done, _⟩
    · have onLine' := beside.onLine_iff.2 onLine
      rcases beside.agree_enact onLine' ⟨rfl, rfl⟩ with ⟨_, _, _, _, done, _⟩ | ⟨stop, after', _, fails', failed, kept⟩
      · rw [fails] at done
        cases done
      · rw [fails] at failed
        cases failed
        rw [← kept.vars, ← kept.console]
        exact .failed onLine' fails' limit
    · cases onLine.unique onRemark
      rw [fails] at done
      cases done
  | turn onLine done _ ih =>
    rcases passing.cases with beside | ⟨next, onRemark, done', beside⟩
    · have onLine' := beside.onLine_iff.2 onLine
      rcases beside.agree_enact onLine' ⟨rfl, rfl⟩ with
        ⟨_, next', _, ended, done', passing⟩ | ⟨stop, _, _, _, failed, _⟩
      · rw [done] at done'
        cases done'
        exact .turn onLine' ended (ih passing)
      · rw [done] at failed
        cases failed
    · cases onLine.unique onRemark
      rw [done] at done'
      cases done'
      exact ih beside.passing

/-- With a remark under a free number that no line jumps to, a program that comes about ends
    from all variables and with all replies as it does without: with the same cause, if it
    fails, and with the same variables and the same console. One of the runs ends if and only
    if the other one does. -/
theorem Reachable.runEnds_remark {session : Session} (reachable : session.Reachable) {number : Int}
    (positive : 1 ≤ number) (inside : number ≤ 2147483647) (free : session.program.contains number = false)
    (untargeted : ∀ line ∈ session.program.lines, ¬ line.2.Targets number) {body : String} {later : List Token}
    (starts : tokenize body = .ok (⟨.word, Keyword.remark.word⟩ :: later)) :
    ∃ entered, accept (Decimal.write number ++ " " ++ body) session = .ok () entered ∧
      ∀ vars console,
        ((∃ ending, RunEnds { session with vars := vars, console := console } ending) ↔
          ∃ ending, RunEnds { entered with vars := vars, console := console } ending) ∧
        ∀ ending ending', RunEnds { session with vars := vars, console := console } ending →
          RunEnds { entered with vars := vars, console := console } ending' → ending = ending' := by
  have keyed : Token.keyword? ⟨.word, Keyword.remark.word⟩ = some .remark := by decide
  have keyword : Statement.keyword? body = .ok (some .remark) := by
    rw [tokenize_eq, Except.ok.injEq] at starts
    rw [Statement.keyword?_eq, starts, List.head?_cons, Option.bind_some, keyed]
  have checked : Form.check body = .ok () := (Form.check_iff_admits keyword).2 rfl
  have line : Statement.ofLine body = ⟨.known .remark, Text.trim body⟩ := by rw [Statement.ofLine, keyword]
  rw [accept_numbered positive inside checked, line]
  refine ⟨_, rfl, fun vars console => ?_⟩
  have nowhere : session.program.CursorStored := by
    intro other here
    rw [reachable.cursor_eq_none] at here
    cases here
  have spares : session.program.Spares number := ⟨reachable.proper.program.ordered, free, nowhere, untargeted⟩
  have passing : ∀ noted, Passing number ⟨.known .remark, Text.trim body⟩
      (started { session with vars := vars, console := console })
      (started { session with
        program := session.program.insert number ⟨.known .remark, Text.trim body⟩
        vars := vars
        console := console
        noted := noted }) :=
    fun noted => ⟨spares.start, spares.joined_start, rfl, rfl⟩
  simp only [runEnds_iff_settles]
  refine ⟨⟨?_, ?_⟩, fun ending ending' settles settles' => ?_⟩
  · rintro ⟨ending, settles⟩
    exact ⟨ending, (passing _).settles fun next beside => beside.settles settles⟩
  · rintro ⟨ending, settles⟩
    exact ⟨ending, (passing _).settles_without settles⟩
  · exact settles.unique ((passing _).settles_without settles')

/-- Between `10 INPUT A` and `30 PRINT A`, a remark that looks like a jump back is executed
    and jumps nowhere: one value is asked for, and written. -/
theorem runEnds_remark_executed :
    ∃ session entered : Session, session.Reachable ∧
      accept (Decimal.write 20 ++ " " ++ "REM GOTO 10") session = .ok () entered ∧
      ⟨.debug, .statements, "Executing [20] REM GOTO 10"⟩ ∈
        (run.reached { entered with console := { replies := [.line "5"] } }).log ∧
      ∃ ending, RunEnds { session with vars := {}, console := { replies := [.line "5"] } } ending ∧
        ending.result = .ok () ∧ ending.vars = ⟨[("A", 5)]⟩ ∧
        ending.console.transcript = [.prompt " ? ", .line "5"] ∧
        RunEnds { entered with vars := {}, console := { replies := [.line "5"] } } ending := by
  have reachable := ((Reachable.fresh {} 9).call (.accept "30 PRINT A")).call (.accept "10 INPUT A")
  have lines : ((Call.accept "10 INPUT A").action.reached ((Call.accept "30 PRINT A").action.reached
      { budget := 9 })).program.lines =
        [(10, ⟨.known .input, "INPUT A"⟩), (30, ⟨.known .print, "PRINT A"⟩)] := by decide +kernel
  have noted : ⟨.debug, .statements, "Executing [20] REM GOTO 10"⟩ ∈ (run.reached
      { (accept (Decimal.write 20 ++ " " ++ "REM GOTO 10")).reached ((Call.accept "10 INPUT A").action.reached
        ((Call.accept "30 PRINT A").action.reached { budget := 9 })) with
          console := { replies := [.line "5"] } }).log := by decide +kernel
  obtain ⟨ending, ran, result, assigned, written⟩ : ∃ ending, Ending.of (run { (Call.accept "10 INPUT A").action.reached
      ((Call.accept "30 PRINT A").action.reached { budget := 9 }) with
        vars := {}, console := { replies := [.line "5"] }, budget := 9 }) = ending ∧
      ending.result = .ok () ∧ ending.vars = ⟨[("A", 5)]⟩ ∧
      ending.console.transcript = [.prompt " ? ", .line "5"] :=
    ⟨_, rfl, by decide +kernel, by decide +kernel, by decide +kernel⟩
  generalize (Call.accept "10 INPUT A").action.reached ((Call.accept "30 PRINT A").action.reached { budget := 9 }) =
    session at reachable lines noted ran
  have free : session.program.contains 20 = false := by
    rw [Program.contains, Program.get?, lines]
    rfl
  have untargeted : ∀ line ∈ session.program.lines, ¬ line.2.Targets 20 := by
    rw [lines, List.forall_mem_cons, List.forall_mem_singleton]
    constructor <;>
    · intro targets
      cases targets
  have starts : tokenize "REM GOTO 10" = .ok [⟨.word, "REM"⟩, ⟨.word, "GOTO"⟩, ⟨.number, "10"⟩] := by decide +kernel
  obtain ⟨entered, stored, same⟩ := reachable.runEnds_remark (by decide) (by decide) free untargeted starts
  obtain ⟨⟨onward, _⟩, agree⟩ := same {} { replies := [.line "5"] }
  have ends : RunEnds { session with vars := {}, console := { replies := [.line "5"] } } ending := by
    refine ⟨?_, 9, ran⟩
    rw [result]
    intro impossible
    cases impossible
  obtain ⟨other, ends'⟩ := onward ⟨ending, ends⟩
  obtain rfl := agree ending other ends ends'
  have executed : (accept (Decimal.write 20 ++ " " ++ "REM GOTO 10")).reached session = entered := by
    rw [Step.reached, Step.outcome, stored]
  rw [executed] at noted
  exact ⟨session, entered, reachable, stored, noted, ending, ends, result, assigned, written, ends'⟩

end Session

end LineBasic
