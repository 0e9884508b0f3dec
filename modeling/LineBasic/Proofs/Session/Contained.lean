import Mathlib
import LineBasic.Proofs.Expr.Room
import LineBasic.Proofs.Session.Running

/-!
What executing and running statements stops with, whatever room the machine has for
calls in progress and whatever lines the screen takes. It is a fault or one of a few
other causes (`Escapes`): the user does not answer, no more statements may be executed, a
decimal text is too long, an expression of what was executed is too deep, or the screen
refuses a line. For a single statement what was executed is its text (`contained_execute`),
for a run the lines of the program (`faultOrEscape_of_run`).
-/
namespace LineBasic

namespace Operands

theorem operandTokens_infix (text : String) : operandTokens text <:+: Lexer.tokens text.toList :=
  (List.tail_suffix _).isInfix

/-- The operands of an assignment are malformed, or its expression is read from where the
    tokens after `=` stand. -/
theorem after_assignment_cases [Stack] (text : String) :
    after assignment text = .error (.fault .malformed) ∨
      ∃ (name : String) (source : List Token) (scanner : Scanner), source <:+: Lexer.tokens text.toList ∧
        scanner.IsBefore source ∧
        after assignment text = (Stack.read.isolated scanner).map fun expression => (name, expression) := by
  obtain ⟨scanner, before, same⟩ := after_eq text
  rw [same]
  unfold Step.isolated assignment
  rcases variableName_eq before with ⟨target, later, reached, listed, _, read, standing⟩ | ⟨_, reached, read⟩
  · cases later with
    | nil =>
      obtain ⟨token, last, taken, ends, _⟩ := Scanner.next_isBefore_nil standing
      simp only [Step.bind_apply, read, taken, Token.isSign_of_isEnding ends]
      exact .inl rfl
    | cons sign source =>
      obtain ⟨last, taken, standing, _⟩ := Scanner.next_isBefore_cons standing
      by_cases joins : sign.isSign "=" = true
      · have among : source <:+: Lexer.tokens text.toList := by
          have operands := operandTokens_infix text
          rw [listed] at operands
          exact (List.suffix_append [target, sign] source).isInfix.trans operands
        refine .inr ⟨target.text, source, last, among, standing, ?_⟩
        simp only [Step.bind_apply, read, taken, joins, ↓reduceIte]
        cases Stack.read last <;> rfl
      · simp only [Step.bind_apply, read, taken, joins]
        exact .inl rfl
  · left
    simp only [Step.bind_apply, read]

end Operands

/-- The text is that of a line of the program. -/
def Program.Holds (program : Program) (source : String) : Prop := ∃ line ∈ program.lines, line.2.source = source

namespace Session

variable {session after : Session} {stop : Stop}

/-- An answer is taken from the replies. -/
theorem replies_of_ask_ok {prompt reply : String} (answered : ask prompt session = .ok reply after) :
    session.console.replies = .line reply :: after.console.replies := by
  rw [ask_apply] at answered
  cases replies : session.console.replies with
  | nil =>
    rw [replies] at answered
    cases answered
  | cons first later =>
    rw [replies] at answered
    cases first with
    | interruption => cases answered
    | line text =>
      cases answered
      rfl

/-- A line is written, unless the screen refuses it. -/
theorem say_apply [Screen] (text : String) (session : Session) :
    say text session =
      if Screen.refuses session.console.written text then .error .unwritten session
      else .ok () { session with console := session.console.record (.line text) } := by
  unfold say onConsole Step.onPart Console.say
  by_cases refused : Screen.refuses session.console.written text = true
  · simp only [refused, ↓reduceIte]
  · simp only [refused]
    rfl

theorem replies_of_say_ok [Screen] {text : String} (said : say text session = .ok () after) :
    after.console.replies = session.console.replies := by
  rw [say_apply] at said
  split_ifs at said
  cases said
  rfl

section
variable [Stack] [Screen]

/-- What a line can end with instead of an answer: nobody answered the prompt of an
    `INPUT`, which was the last thing to appear, the budget was spent, a numeral was longer
    than the longest that is converted, an expression in what was executed was too deep, or
    the screen refused a line. -/
inductive Escapes (executed : String → Prop) (after : Session) : Stop → Prop
  | endOfInput {console : Console} (asked : Console.ask inputPrompt console = .error .endOfInput after.console) :
      Escapes executed after .endOfInput
  | interrupted {console : Console} (asked : Console.ask inputPrompt console = .error .interrupted after.console) :
      Escapes executed after .interrupted
  | exhausted (spent : after.budget = 0) : Escapes executed after .stepLimit
  | tooManyDigits {count : Nat} (long : digitLimit < count) : Escapes executed after (.tooManyDigits count)
  | tooDeep {source : String} (executes : executed source) (overflows : Stack.Overflows (Lexer.tokens source.toList)) :
      Escapes executed after .tooDeep
  | unwritten {told : String} (refused : Screen.refuses after.console.written told = true) :
      Escapes executed after .unwritten

/-- A fault, or what the shell lets pass. -/
def FaultOrEscape (executed : String → Prop) (stop : Stop) (after : Session) : Prop :=
  (∃ cause, stop = .fault cause) ∨ Escapes executed after stop

/-- From whatever session, the action stops with a fault or with what the shell lets pass. -/
abbrev Contained {α : Type} (executed : String → Prop) (action : Action α) : Prop :=
  Step.StopsIn (FaultOrEscape executed) action

variable {executed more : String → Prop}

/-- More may have been executed, and nothing that escapes shows the program or the
    variables. -/
theorem Escapes.mono {other : Session} (escapes : Escapes executed after stop)
    (implies : ∀ source, executed source → more source) (console : other.console = after.console)
    (budget : other.budget = after.budget) : Escapes more other stop := by
  cases escapes with
  | endOfInput asked => exact .endOfInput (by rw [console]; exact asked)
  | interrupted asked => exact .interrupted (by rw [console]; exact asked)
  | exhausted spent => exact .exhausted (budget.trans spent)
  | tooManyDigits long => exact .tooManyDigits long
  | tooDeep executes overflows => exact .tooDeep (implies _ executes) overflows
  | unwritten refused => exact .unwritten (by rw [console]; exact refused)

theorem FaultOrEscape.mono {other : Session} (ends : FaultOrEscape executed stop after)
    (implies : ∀ source, executed source → more source) (console : other.console = after.console)
    (budget : other.budget = after.budget) : FaultOrEscape more stop other :=
  ends.imp_right fun escapes => escapes.mono implies console budget

theorem contained_fail {α : Type} (cause : Fault) : Contained executed (Step.fail cause : Action α) :=
  Step.stopsIn_throw fun _ => .inl ⟨cause, rfl⟩

/-! ### Reading and evaluating -/

theorem faultOrEscape_of_reading (unread : stop.OfReading) (after : Session) : FaultOrEscape executed stop after := by
  cases unread with
  | malformed => exact .inl ⟨_, rfl⟩
  | invalidNumber => exact .inl ⟨_, rfl⟩
  | tooManyDigits long => exact .inr (.tooManyDigits long)

theorem faultOrEscape_of_evaluation (failed : stop.OfEvaluation) (after : Session) :
    FaultOrEscape executed stop after := by
  cases failed <;> exact .inl ⟨_, rfl⟩

/-- What stops with the reasons of reading only is no more than a fault or a long numeral. -/
theorem contained_after {α : Type} {reader : Step Scanner α} (stops : Step.StopsOnly Stop.OfReading reader)
    (source : String) : Contained executed (Step.ofExcept (Operands.after reader source) : Action α) :=
  Step.stopsIn_ofExcept fun _ unread => faultOrEscape_of_reading (Operands.ofReading_of_after stops unread)

section
variable {source : String} {operand : List Token} {scanner : Scanner} (executes : executed source)
  (among : operand <:+: Lexer.tokens source.toList) (before : scanner.IsBefore operand)

include executes among

theorem contained_value {expression : Expr} (derives : Derives 0 operand expression) :
    Contained executed (onVariables (Stack.evaluate expression)) := by
  intro session stop after ended
  unfold onVariables Step.onPart at ended
  cases done : Stack.evaluate expression session.vars with
  | ok value vars =>
    rw [done] at ended
    cases ended
  | error cause vars =>
    rw [done] at ended
    cases ended
    rcases Stack.evaluate_error_cases done with failed | ⟨rfl, exceeds⟩
    · exact faultOrEscape_of_evaluation failed _
    · exact .inr (.tooDeep executes (.evaluating among derives exceeds))

include before

/-- An operand is read to what its tokens derive, or not, for a reason that is contained. -/
theorem contained_read {β : Type} {next : Expr → Action β}
    (onward : ∀ expression, Derives 0 operand expression → Contained executed (next expression)) :
    Contained executed (Step.ofExcept (Stack.read.isolated scanner) >>= next) := by
  unfold Step.isolated
  cases done : Stack.read scanner with
  | ok expression reached =>
    rw [Step.ofExcept_ok_bind]
    exact onward expression (Stack.derives_of_read before done)
  | error stop reached =>
    refine Step.stopsIn_throw fun after => ?_
    rcases Stack.read_error_cases before done with unread | ⟨rfl, exceeds⟩
    · exact faultOrEscape_of_reading unread after
    · exact .inr (.tooDeep executes (.reading among exceeds))

theorem contained_evaluate : Contained executed (evaluate (Stack.read.isolated scanner)) :=
  contained_read executes among before fun _ derives => contained_value executes among derives

end

/-! ### The console -/

theorem contained_say (text : String) : Contained executed (say text) := by
  intro session stop after ended
  rw [say_apply] at ended
  split_ifs at ended with refused
  cases ended
  exact .inr (.unwritten refused)

theorem escapes_of_ask (unanswered : ask inputPrompt session = .error stop after) : Escapes executed after stop := by
  cases asked : Console.ask inputPrompt session.console with
  | ok reply console => simp [ask, onConsole, Step.onPart, asked] at unanswered
  | error cause console =>
    simp only [ask, onConsole, Step.onPart, asked, EStateM.Result.error.injEq] at unanswered
    obtain ⟨rfl, rfl⟩ := unanswered
    cases replies : session.console.replies with
    | nil =>
      have ended := asked
      simp only [Console.ask, replies, EStateM.Result.error.injEq] at ended
      obtain ⟨rfl, _⟩ := ended
      exact .endOfInput asked
    | cons first later =>
      have ended := asked
      cases first with
      | line text => simp [Console.ask, replies] at ended
      | interruption =>
        simp only [Console.ask, replies, EStateM.Result.error.injEq] at ended
        obtain ⟨rfl, _⟩ := ended
        exact .interrupted asked

/-- As long as fewer replies are left than are looked at, asking is given up only where
    there is no reply, at one that is too long, or where the message is refused. -/
theorem faultOrEscape_of_askInteger {bound : Nat} (enough : session.console.replies.length < bound)
    (ended : askInteger bound session = .error stop after) : FaultOrEscape executed stop after := by
  induction bound generalizing session with
  | zero => omega
  | succ bound ih =>
    rcases Step.bind_error_cases ended with unanswered | ⟨reply, middle, answered, ended⟩
    · exact .inr (escapes_of_ask unanswered)
    · have fewer : middle.console.replies.length < bound := by
        rw [replies_of_ask_ok answered, List.length_cons] at enough
        omega
      cases read : Decimal.readReply reply with
      | ok value =>
        rw [read] at ended
        cases ended
      | error cause =>
        rw [read] at ended
        cases Decimal.readReply_error read with
        | tooManyDigits long =>
          cases ended
          exact .inr (.tooManyDigits long)
        | invalidNumber =>
          rcases Step.bind_error_cases ended with unnoted | ⟨_, noting, noted, ended⟩
          · cases unnoted
          rcases Step.bind_error_cases ended with refused | ⟨_, told, said, ended⟩
          · exact contained_say _ refused
          -- The next prompt comes after the message, with the same replies left.
          have left : told.console.replies = middle.console.replies := by
            rw [replies_of_say_ok said]
            cases noted
            rfl
          exact ih (by rwa [left]) ended

/-! ### Executing -/

theorem contained_jump (number : Int) : Contained executed (onProgram (Program.jump number)) := by
  intro session stop after ended
  obtain ⟨rfl, _⟩ := jump_error_cases ended
  exact .inl ⟨_, rfl⟩

theorem contained_assign {source : String} (executes : executed source) :
    Contained executed (perform .assign source) := by
  unfold perform
  dsimp only
  rcases Operands.after_assignment_cases source with unread | ⟨name, operand, scanner, among, before, same⟩
  · rw [unread]
    exact contained_fail .malformed
  · rw [same, Step.ofExcept_map_bind]
    refine contained_read executes among before fun expression derives => ?_
    refine (contained_value executes among derives).bind fun value => ?_
    exact ((succeeds_assign name value).bind fun _ => succeeds_advance).stopsIn

theorem contained_branch {source : String} (executes : executed source) :
    Contained executed (perform .branch source) := by
  unfold perform
  dsimp only
  rw [Operands.after_remaining, Step.ofExcept_ok_bind]
  cases parted : Branch.ofTokens? (Operands.operandTokens source) with
  | none => exact contained_fail .malformed
  | some branch =>
    obtain ⟨sign, word, listed, _⟩ := Branch.ofTokens?_eq_some_iff.1 parted
    have proper : ∀ token ∈ Operands.operandTokens source, token.isEnding = false :=
      fun _ => Operands.isEnding_of_mem_operandTokens
    have operand : ∀ {tokens : List Token}, tokens <:+: Operands.operandTokens source →
        Contained executed (evaluate (Stack.read.isolated (Scanner.ofTokens tokens))) := by
      intro tokens among
      exact contained_evaluate executes (among.trans (Operands.operandTokens_infix source))
        (Scanner.isBefore_ofTokens fun token member => proper token (among.subset member))
    have left : branch.left <:+: Operands.operandTokens source := by
      rw [listed]
      exact (List.prefix_append _ _).isInfix
    have right : branch.right <:+: Operands.operandTokens source :=
      ⟨branch.left ++ [sign], [word, branch.target], by simp [listed]⟩
    refine (operand left).bind fun first => (operand right).bind fun second => ?_
    by_cases relates : branch.relation.holds first second = true
    · rw [if_pos relates]
      refine Step.StopsIn.bind (Step.stopsIn_ofExcept fun stop unread after => ?_) contained_jump
      exact faultOrEscape_of_reading (Decimal.readLiteral_error unread).ofReading after
    · rw [if_neg relates]
      exact succeeds_advance.stopsIn

theorem contained_perform (keyword : Keyword) {source : String} (executes : executed source) :
    Contained executed (perform keyword source) := by
  cases keyword with
  | remark => exact succeeds_advance.stopsIn
  | stop => exact (Step.succeeds_modify _).stopsIn
  | assign => exact contained_assign executes
  | branch => exact contained_branch executes
  | jump => exact (contained_after Operands.stopsOnly_target source).bind contained_jump
  | print =>
    obtain ⟨scanner, before, same⟩ := Operands.after_eq source
    unfold perform
    dsimp only
    rw [same]
    refine (contained_evaluate executes (Operands.operandTokens_infix source) before).bind fun value => ?_
    exact (contained_say _).bind fun _ => succeeds_advance.stopsIn
  | input =>
    intro session stop after ended
    rcases perform_input_error_cases ended with unread | failed
    · exact faultOrEscape_of_reading (Operands.ofReading_of_after Operands.stopsOnly_onlyVariable unread) after
    · exact faultOrEscape_of_askInteger (Nat.lt_succ_self _) failed

theorem contained_execute {statement : Statement} (executes : executed statement.source) :
    Contained executed (execute statement) := by
  intro session stop after ended
  cases budget : session.budget with
  | zero =>
    rw [execute_of_exhausted statement budget] at ended
    cases ended
    exact .inr (.exhausted budget)
  | succ left =>
    obtain ⟨kind, source⟩ := statement
    cases kind with
    | known keyword =>
      obtain ⟨noted, handed⟩ := execute_known keyword source budget
      rw [handed] at ended
      exact contained_perform keyword executes ended
    | unknown name =>
      simp only [execute, Step.bind_apply, countDown, budget, Step.fail_apply] at ended
      cases ended
      exact .inl ⟨_, rfl⟩

/-! ### Running -/

/-- Each turn executes a line of the program, leaves the lines as they are and takes one
    from the budget. -/
theorem faultOrEscape_of_continueRun {program : Program} {bound : Nat} (enough : session.budget < bound)
    (onTrack : OnTrack program.lines session) (ended : continueRun bound session = .error stop after) :
    FaultOrEscape program.Holds stop after := by
  induction bound generalizing session with
  | zero => omega
  | succ bound ih =>
    rcases onTrack.onLine with nowhere | ⟨number, statement, onLine⟩
    · rw [continueRun_of_none bound nowhere] at ended
      cases ended
    · rw [continueRun_of_onLine bound onLine] at ended
      cases done : execute statement session with
      | error cause reached =>
        rw [done] at ended
        cases ended
        have stored := Program.mem_of_get? onLine.2
        rw [onTrack.lines_eq] at stored
        exact contained_execute ⟨_, stored, rfl⟩ done
      | ok answer middle =>
        rw [done] at ended
        obtain ⟨keyword, _, moved, counted⟩ := execute_ok_cases done
        exact ih (by omega) ⟨moved.lines_eq.trans onTrack.lines_eq, moved.cursorStored⟩ ended

theorem faultOrEscape_of_run (ended : run session = .error stop after) :
    FaultOrEscape session.program.Holds stop after := by
  rw [run_apply] at ended
  cases ran : continueRun (session.budget + 1) session.started with
  | ok answer reached =>
    rw [ran] at ended
    cases ended
  | error cause reached =>
    rw [ran] at ended
    cases ended
    have ends := faultOrEscape_of_continueRun (Nat.lt_succ_self _) (onTrack_started session) ran
    exact ends.mono (fun _ stored => stored) rfl rfl

end

end Session

end LineBasic
