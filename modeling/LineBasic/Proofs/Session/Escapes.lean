import Mathlib
import LineBasic.Proofs.Expr.Built
import LineBasic.Proofs.Session.Contained
import LineBasic.Proofs.Session.History
import LineBasic.Proofs.Statement.Sentence

/-!
What the shell lets pass. Whatever a line is and whatever the session, the machine and the
screen, an action of the session stops with a fault or with one of a few other causes. The
shell reports the faults, so that a line ends with an answer or with one of the others
(`process_contained`). Among them is an expression that is too deep, and however much room
there is, a chain of assignments can be longer (`process_chain`).
-/
namespace LineBasic

namespace Shell

/-- What a report of a fault writes: its message, after the place of the fault in a
    verbose report. -/
def reportLines : Bool → Fault → List Entry
  | true, cause => [.line "[error] >>>", .line (traceText cause), .line cause.message]
  | false, cause => [.line cause.message]

/-- After a fault the handling ends with the whole report, or where the screen refuses one
    of its lines. Nothing but the console and the log has changed. -/
def Reported [Screen] (verbose : Bool) (cause : Fault) (failed : Session) (ended : EStateM.Result Stop Session Bool) :
    Prop :=
  ∃ (reported : Session) (shown : List Entry), reported.program = failed.program ∧ reported.vars = failed.vars ∧
    reported.console.transcript = failed.console.transcript ++ shown ∧
    ((shown = reportLines verbose cause ∧ ended = .ok true reported) ∨
      ∃ told later, reportLines verbose cause = shown ++ .line told :: later ∧
        Screen.refuses reported.console.written told = true ∧ ended = .error .unwritten reported)

theorem command?_of_keyword (keyword : Keyword) : (Token.mk .word keyword.word).command? = none := by
  cases keyword <;> decide

theorem handle_of_statement [Stack] [Screen] {text : String} {keyword : Keyword} {operands : List Token}
    (immediate : keyword.isImmediate = true) (listed : Lexer.tokens text.toList = ⟨.word, keyword.word⟩ :: operands) :
    handle text = (do Session.execute ⟨.known keyword, Text.trim text⟩; return true) := by
  have starts := Statement.keyword?_of_tokens listed
  have other : ∀ first ∈ (Lexer.tokens text.toList).head?, first.command? = none := by
    rw [listed]
    rintro _ ⟨⟩
    exact command?_of_keyword keyword
  have same : Statement.ofLine text = ⟨.known keyword, Text.trim text⟩ := by simp only [Statement.ofLine, starts]
  rw [handle_eq_accept other, Session.accept_immediate starts immediate, same]

end Shell

/-- What an edit of the program can be refused with. -/
inductive Stop.OfEditing : Stop → Prop
  | malformed : OfEditing (.fault .malformed)
  | noSuchLine : OfEditing (.fault .noSuchLine)
  | tooManyDigits {count : Nat} (long : digitLimit < count) : OfEditing (.tooManyDigits count)

namespace Session

variable {text : String} {session after : Session} {stop : Stop}

/-! ### Editing -/

theorem ofEditing_of_lineNumber {digits : List Char} (refused : lineNumber digits = .error stop) : stop.OfEditing := by
  unfold lineNumber Decimal.convert at refused
  by_cases long : digitLimit < digits.length
  · rw [if_pos long] at refused
    cases refused
    exact .tooManyDigits long
  · rw [if_neg long] at refused
    simp only [bind, Except.bind] at refused
    split_ifs at refused
    · cases refused
      exact .malformed
    · cases refused
      exact .noSuchLine

theorem succeeds_put (number : Int) (change : Option Statement) : Step.Succeeds (put number change) := by
  intro session stop after ended
  obtain ⟨noted, made⟩ := put_apply number change session
  rw [made] at ended
  cases ended

/-- An edit is refused for its form or its number. -/
theorem stopsOnly_edit (text : List Char) : Step.StopsOnly Stop.OfEditing (edit text) := by
  unfold edit
  cases splitNumber text with
  | none => exact Step.stopsOnly_fail .malformed
  | some parts =>
    obtain ⟨digits, body⟩ := parts
    apply Step.StopsOnly.bind (Step.stopsOnly_ofExcept fun stop refused => ofEditing_of_lineNumber refused)
    intro number
    by_cases alone : body.isEmpty = true
    · rw [if_pos alone]
      exact (succeeds_put number none).stopsOnly
    · rw [if_neg alone]
      have checks : Step.StopsOnly Stop.OfEditing (Step.ofExcept (Form.check (String.ofList body)) : Action Unit) := by
        rcases Form.check_cases (String.ofList body) with passed | refused
        · rw [passed]
          exact Step.stopsOnly_pure ()
        · rw [refused]
          exact Step.stopsOnly_fail .malformed
      apply checks.bind
      intro _
      rw [Statement.keyword?_eq, Step.ofExcept_ok_bind]
      cases (Lexer.tokens (String.ofList body).toList).head?.bind Token.keyword? with
      | none => exact Step.stopsOnly_fail .malformed
      | some keyword => exact (succeeds_put number (some ⟨.known keyword, String.ofList body⟩)).stopsOnly

/-! ### Reports -/

/-- Some lines are written, or those before one that the screen refuses. -/
theorem forM_say_cases [Screen] (texts : List String) (session : Session) :
    ∃ (after : Session) (shown : List Entry), after.program = session.program ∧ after.vars = session.vars ∧
      after.console.transcript = session.console.transcript ++ shown ∧
      ((shown = texts.map .line ∧ texts.forM say session = .ok () after) ∨
        ∃ told later, texts.map .line = shown ++ .line told :: later ∧
          Screen.refuses after.console.written told = true ∧ texts.forM say session = .error .unwritten after) := by
  induction texts generalizing session with
  | nil => exact ⟨session, [], rfl, rfl, by simp, .inl ⟨rfl, rfl⟩⟩
  | cons text later ih =>
    have first := say_apply text session
    change ∃ (after : Session) (shown : List Entry), after.program = session.program ∧ after.vars = session.vars ∧
      after.console.transcript = session.console.transcript ++ shown ∧
      ((shown = (text :: later).map .line ∧ (say text >>= fun _ => later.forM say) session = .ok () after) ∨
        ∃ told others, (text :: later).map .line = shown ++ .line told :: others ∧
          Screen.refuses after.console.written told = true ∧
          (say text >>= fun _ => later.forM say) session = .error .unwritten after)
    rw [Step.bind_apply]
    by_cases refused : Screen.refuses session.console.written text = true
    · rw [if_pos refused] at first
      rw [first]
      exact ⟨session, [], rfl, rfl, by simp, .inr ⟨text, later.map .line, rfl, refused, rfl⟩⟩
    · rw [if_neg refused] at first
      rw [first]
      obtain ⟨after, shown, program, vars, written, ended⟩ :=
        ih { session with console := session.console.record (.line text) }
      refine ⟨after, .line text :: shown, program, vars, by simp [written], ?_⟩
      rcases ended with ⟨rfl, ended⟩ | ⟨told, others, split, refused, ended⟩
      · exact .inl ⟨rfl, ended⟩
      · exact .inr ⟨told, others, by rw [List.map_cons, split, List.cons_append], refused, ended⟩

theorem report_eq [Screen] (verbose : Bool) (text : String) (cause : Fault) :
    ∃ texts : List String, texts.map .line = Shell.reportLines verbose cause ∧
      Shell.report verbose text cause =
        (do note .debug .shell ("Line " ++ Text.quoted text ++ " failed: " ++ cause.message); texts.forM say) := by
  cases verbose with
  | true =>
    refine ⟨["[error] >>>", Shell.traceText cause, cause.message], rfl, ?_⟩
    simp [Shell.report]
  | false =>
    refine ⟨[cause.message], rfl, ?_⟩
    simp [Shell.report]

theorem reported_report [Screen] (verbose : Bool) (text : String) (cause : Fault) (failed : Session) :
    Shell.Reported verbose cause failed ((do Shell.report verbose text cause; return true) failed) := by
  obtain ⟨texts, written, same⟩ := report_eq verbose text cause
  obtain ⟨after, shown, program, vars, appeared, ended⟩ := forM_say_cases texts { failed with
    noted := ⟨.debug, .shell, "Line " ++ Text.quoted text ++ " failed: " ++ cause.message⟩ :: failed.noted }
  refine ⟨after, shown, program, vars, appeared, ?_⟩
  rw [same, ← written]
  simp only [Step.bind_apply, note, Step.modify_apply]
  rcases ended with ⟨whole, done⟩ | ⟨told, later, split, refused, stopped⟩
  · rw [done]
    exact .inl ⟨whole, rfl⟩
  · rw [stopped]
    exact .inr ⟨told, later, split, refused, rfl⟩

section
variable [Stack] [Screen] {executed : String → Prop}

theorem contained_edit (text : List Char) : Contained executed (edit text) := by
  intro session stop after ended
  cases stopsOnly_edit text ended with
  | malformed => exact .inl ⟨_, rfl⟩
  | noSuchLine => exact .inl ⟨_, rfl⟩
  | tooManyDigits long => exact .inr (.tooManyDigits long)

/-! ### Typing -/

/-- To look for a keyword is no mistake. -/
theorem contained_keyword? (text : String) :
    Contained executed (Step.ofExcept (Statement.keyword? text) : Action _) := by
  rw [Statement.keyword?_eq]
  exact (Step.succeeds_pure _).stopsIn

theorem contained_executeAtOnce (executes : executed text) : Contained executed (executeAtOnce text) := by
  apply (contained_keyword? text).bind
  intro starting
  cases starting with
  | none => exact contained_fail .malformed
  | some keyword =>
    dsimp only
    by_cases immediate : keyword.isImmediate = true
    · rw [if_pos immediate]
      exact contained_execute executes
    · rw [if_neg immediate]
      exact contained_fail .malformed

theorem contained_accept (bare : Text.trimmed text.toList = text.toList) (executes : executed text) :
    Contained executed (accept text) := by
  unfold accept
  rw [bare]
  cases shown : text.toList with
  | nil => exact (Step.succeeds_pure _).stopsIn
  | cons c rest =>
    dsimp only
    split_ifs
    · exact contained_edit _
    · rw [← shown, String.ofList_toList]
      exact contained_executeAtOnce executes

/-! ### Commands -/

theorem faultOrEscape_of_command {command : Command} (ended : Shell.perform command session = .error stop after) :
    FaultOrEscape session.program.Holds stop after := by
  cases command with
  | run => exact faultOrEscape_of_run ended
  | list =>
    have lists : Contained session.program.Holds ((listing session.program).forM say) :=
      Step.stopsIn_forM contained_say
    exact lists ended
  | clear => exact absurd ended (((Step.succeeds_modify _).bind fun _ => Step.succeeds_modify _) ·)
  | help => exact contained_say _ ended
  | quit => cases ended

theorem faultOrEscape_of_handle (bare : Text.trimmed text.toList = text.toList)
    (ended : Shell.handle text session = .error stop after) :
    FaultOrEscape (fun source => source = text ∨ session.program.Holds source) stop after := by
  rcases Shell.handle_cases text with same | same | ⟨command, _, same⟩
  · rw [same] at ended
    exact ((contained_accept bare (.inl rfl)).bind fun _ => (Step.succeeds_pure _).stopsIn) ended
  · rw [same] at ended
    exact contained_fail .malformed ended
  · rw [same] at ended
    rcases Step.bind_error_cases ended with failed | ⟨_, _, _, answered⟩
    · exact (faultOrEscape_of_command failed).mono (fun _ => .inr) rfl rfl
    · cases answered

/-! ### Lines -/

/-- A fault is reported, and the conversation goes on if the screen takes the report. -/
theorem reported_of_fault {line : String} {cause : Fault} (verbose : Bool)
    (failed : Shell.handle (Text.trim line) session = .error (.fault cause) after) :
    Shell.Reported verbose cause after (Shell.process verbose line session) := by
  rw [Shell.process_eq, Step.onFault, failed]
  exact reported_report verbose (Text.trim line) cause after

theorem escapes_of_process {line : String} {verbose : Bool}
    (ended : Shell.process verbose line session = .error stop after) :
    Escapes (fun source => source = Text.trim line ∨ session.program.Holds source) after stop := by
  cases handled : Shell.handle (Text.trim line) session with
  | ok answer reached =>
    rw [Shell.process_eq, Step.onFault, handled] at ended
    cases ended
  | error cause reached =>
    cases cause with
    | fault cause =>
      obtain ⟨reported, shown, _, _, _, reports⟩ := reported_of_fault verbose handled
      rcases reports with ⟨_, done⟩ | ⟨told, later, _, refused, stopped⟩
      · rw [done] at ended
        cases ended
      · rw [stopped] at ended
        cases ended
        exact .unwritten refused
    | _ =>
      rw [Shell.process_eq, Step.onFault, handled] at ended
      cases ended
      rcases faultOrEscape_of_handle (trimmed_of_trim rfl) handled with ⟨cause, other⟩ | escapes
      · cases other
      · exact escapes

/-- `QUIT` alone ends the conversation. -/
theorem handle_false_iff (line : String) (session : Session) :
    (∃ after, Shell.handle (Text.trim line) session = .ok false after) ↔ Text.trim line = Command.quit.word := by
  constructor
  · rintro ⟨after, handled⟩
    rcases Shell.handle_cases (Text.trim line) with same | same | ⟨command, listed, same⟩
    · rw [same] at handled
      obtain ⟨_, _, _, other⟩ := Step.bind_ok_cases handled
      cases other
    · rw [same] at handled
      cases handled
    · rw [same] at handled
      obtain ⟨_, _, _, answered⟩ := Step.bind_ok_cases handled
      obtain rfl : command = .quit := by
        cases command with
        | quit => rfl
        | _ => cases answered
      exact Lexer.eq_of_tokens_singleton (trimmed_of_trim rfl) listed
  · intro quits
    have listed : tokenize Command.quit.word = .ok [⟨.word, Command.quit.word⟩] := by decide +kernel
    refine ⟨session, ?_⟩
    unfold Shell.handle Shell.obey
    rw [quits, listed]
    rfl

/-- The answer of a line is that of its handling. Where a fault is reported, it is to go on. -/
theorem process_false_iff (verbose : Bool) (line : String) (session : Session) :
    (∃ after, Shell.process verbose line session = .ok false after) ↔ Text.trim line = Command.quit.word := by
  rw [← handle_false_iff line session]
  cases handled : Shell.handle (Text.trim line) session with
  | ok answer after =>
    rw [Shell.process_eq, Step.onFault, handled]
  | error stop after =>
    cases stop with
    | fault cause =>
      obtain ⟨reported, shown, _, _, _, ended⟩ := reported_of_fault verbose handled
      rcases ended with ⟨_, done⟩ | ⟨_, _, _, _, refused⟩
      · simp [done]
      · simp [refused]
    | _ =>
      rw [Shell.process_eq, Step.onFault, handled]

/-- Whatever the line, the session, the machine and the screen: what ends a line without an
    answer is a prompt of `INPUT` that nobody answers, a spent budget, a numeral that is too
    long, an expression that is too deep, in the line or in a line of the program, or a line
    that the screen refuses. Every fault is reported, with its message as the last line, and
    only `QUIT` ends the conversation. A reader goes on only with one of the five operators,
    and the evaluation of what it builds fails for its variables or by dividing by zero, never
    for the kind of a node or its operator. A machine has room for every expression in a text
    that is less than half as long as the calls that there is room for. -/
theorem process_contained (verbose : Bool) (line : String) (session : Session) :
    (∀ stop after, Shell.process verbose line session = .error stop after →
        Escapes (fun source => source = Text.trim line ∨ session.program.Holds source) after stop) ∧
      (∀ cause after, Shell.handle (Text.trim line) session = .error (.fault cause) after →
        Shell.Reported verbose cause after (Shell.process verbose line session)) ∧
      ((∃ after, Shell.process verbose line session = .ok false after) ↔ Text.trim line = Command.quit.word) ∧
      (∀ (token : Token) (threshold : Int), 0 ≤ threshold → threshold < token.precedence →
        0 ≤ Expr.rightThreshold token ∧
          ∃ operator, token.operator? = some operator ∧ token.text = operator.sign) ∧
      (∀ (tree : Tree) (vars : Variables) stop after, tree.Built → tree.eval vars = .error stop after →
        stop.OfEvaluation) ∧
      ∀ (calls : Nat) (source : String), 2 * source.length + 4 ≤ calls →
        ¬ @Stack.Overflows (Stack.ofCalls calls) (Lexer.tokens source.toList) := by
  refine ⟨fun stop after => escapes_of_process, fun cause after => reported_of_fault verbose,
    process_false_iff verbose line session, fun token threshold => Expr.operator_of_threshold, ?_, ?_⟩
  · exact fun tree vars stop after built failed => built.stopsOnly_eval failed
  · intro calls source short
    refine Stack.not_overflows_of_short ?_
    have fewer := Lexer.length_tokens_le source.toList
    rw [String.length_toList] at fewer
    omega

end

/-- A running `INPUT` is refused a reply and then broken off, so that `RUN` is. -/
theorem process_contained_interrupted :
    ∃ (session after : Session), Shell.process false "RUN" session = .error .interrupted after ∧
      Escapes (fun source => source = "RUN" ∨ session.program.Holds source) after .interrupted := by
  have stopped := Step.eq_error_of_outcome (show ((Shell.process false "RUN").outcome
    ((Shell.process false "10 INPUT A").reached
      { console := { replies := [.line "x", .interruption] }, budget := 9 })).1 = .error .interrupted by decide +kernel)
  have trimmed : Text.trim "RUN" = "RUN" := by decide +kernel
  have escapes := (process_contained false "RUN" _).1 _ _ stopped
  rw [trimmed] at escapes
  exact ⟨_, _, stopped, escapes⟩

/-! ### Expressions that are too deep -/

/-- The characters of a chain of assignments to `x`. -/
def chained (count : Nat) : List Char := (List.replicate count ['x', '=']).flatten ++ ['1']

/-- The line that prints the value of the chain. -/
def chainLine (count : Nat) : String := String.ofList (Keyword.print.word.toList ++ ' ' :: chained count)

theorem tokens_chained (count : Nat) :
    Lexer.tokens (chained count) = Expr.assignments "x" count ++ [⟨.number, "1"⟩] := by
  induction count with
  | zero => decide +kernel
  | succ count ih =>
    have apart : Lexer.Apart ['x', '='] (chained count) := by
      intro last isLast _ _ goes
      obtain rfl : '=' = last := Option.some.inj isLast
      exact absurd goes (by decide)
    have pair : Lexer.tokens ['x', '='] = [⟨.word, "x"⟩, ⟨.operator, "="⟩] := by decide +kernel
    have split : chained (count + 1) = ['x', '='] ++ chained count := rfl
    rw [split, Lexer.tokens_append apart, pair, ih]
    rfl

theorem tokens_chainLine (count : Nat) :
    Lexer.tokens (chainLine count).toList =
      ⟨.word, Keyword.print.word⟩ :: (Expr.assignments "x" count ++ [⟨.number, "1"⟩]) := by
  rw [chainLine, String.toList_ofList, Lexer.tokens_keyword, tokens_chained]

/-- A `PRINT` whose expression is too deep ends without an answer, and nothing is written. -/
theorem process_of_overflows [Stack] [Screen] {line : String} {operands : List Token}
    (listed : Lexer.tokens line.toList = ⟨.word, Keyword.print.word⟩ :: operands)
    (exceeds : Stack.overflowsReading operands = true) (verbose : Bool) {session : Session}
    (unspent : 0 < session.budget) :
    ∃ after, Shell.process verbose line session = .error .tooDeep after ∧
      after.program = session.program ∧ after.vars = session.vars ∧ after.console = session.console := by
  obtain ⟨left, budget⟩ : ∃ left, session.budget = left + 1 := ⟨session.budget - 1, by omega⟩
  rw [← Lexer.tokens_trim] at listed
  obtain ⟨scanner, before, same⟩ := Operands.after_eq (Text.trim line)
  have operand : Operands.operandTokens (Text.trim line) = operands := by
    rw [Operands.operandTokens, listed, List.tail_cons]
  rw [operand] at before
  have unread : Operands.after Stack.read (Text.trim line) = .error .tooDeep := by
    rw [same, Step.isolated, Stack.read, Stack.tokensLeft_eq before, if_pos exceeds]
  obtain ⟨noted, handed⟩ := execute_known .print (Text.trim line) budget
  have failed : perform .print (Text.trim line) { session with budget := left, noted := noted } =
      .error .tooDeep { session with budget := left, noted := noted } := by
    unfold perform evaluate
    dsimp only
    rw [unread]
    rfl
  refine ⟨{ session with budget := left, noted := noted }, ?_, rfl, rfl, rfl⟩
  rw [Shell.process_eq, Shell.handle_of_statement (by decide) listed, Text.trim_trim, Step.onFault, Step.bind_apply,
    handed, failed]

/-- However much room a machine has, a line that takes more ends without an answer, and
    what it was to print never appears. -/
theorem process_chain [Screen] {calls count : Nat} (little : calls ≤ count) (verbose : Bool) {session : Session}
    (unspent : 0 < session.budget) :
    ∃ after, @Shell.process (Stack.ofCalls calls) _ verbose (chainLine count) session = .error .tooDeep after ∧
      after.program = session.program ∧ after.vars = session.vars ∧ after.console = session.console := by
  refine @process_of_overflows (Stack.ofCalls calls) _ _ _ (tokens_chainLine count) ?_ verbose _ unspent
  exact Stack.overflowsReading_of_chain (by decide) little (by decide)

/-- On the machine that the program runs on, a chain of 20000 assignments ends a line for
    none of the other causes. -/
theorem process_contained_chain :
    ∃ stop after, @Shell.process Stack.usual Screen.willing false (chainLine 20000) { budget := 2000 } =
        .error stop after ∧
      stop ≠ .endOfInput ∧ stop ≠ .interrupted ∧ stop ≠ .stepLimit ∧ (∀ count, stop ≠ .tooManyDigits count) ∧
      stop = .tooDeep := by
  obtain ⟨after, ended, _⟩ := @process_chain Screen.willing 980 20000 (by omega) false { budget := 2000 } (by decide)
  exact ⟨.tooDeep, after, ended, by simp, by simp, by simp, by simp, rfl⟩

end Session

end LineBasic
