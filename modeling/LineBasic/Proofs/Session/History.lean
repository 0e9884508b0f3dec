import Mathlib
import LineBasic.Proofs.Session.Running

/-!
The program as the history of what was typed. However the lines were mixed with others
that failed, ran or asked, the program consists of the last edits of its lines since
it was cleared (`Typed.program_eq_last_edits`). A line does one of three things to the
program: it clears it (`program_of_clears`), edits one line of it (`process_of_edits`)
or leaves it as it is (`program_of_others`).
-/
namespace LineBasic

namespace Shell

theorem handle_clear (session : Session) :
    ∃ noted, handle Command.clear.word session =
      .ok true { session with program := {}, vars := {}, noted := noted } := by
  have listed : tokenize Command.clear.word = .ok [⟨.word, Command.clear.word⟩] := by decide +kernel
  unfold handle obey
  rw [listed]
  exact ⟨_, rfl⟩

end Shell

namespace Session

/-- The line is the command that clears the program. -/
def Clears (line : String) : Prop := Text.trim line = Command.clear.word

/-- The last of the lines that edits the line of the number, with no clearing after it,
    makes the change. -/
def LastEdit (lines : List String) (number : Int) (change : Option Statement) : Prop :=
  ∃ before line after, lines = before ++ line :: after ∧ Edits (Text.trimmed line.toList) number change ∧
    ∀ later ∈ after, ¬ Clears later ∧ ∀ other, ¬ Edits (Text.trimmed later.toList) number other

/-- The session comes about by typing the lines to a new one. In between the user may
    get new replies ready, and the budget may be renewed. -/
inductive Typed : List String → Session → Prop
  | fresh (console : Console) (budget : Nat) : Typed [] { console := console, budget := budget }
  | line {lines : List String} {session : Session} (before : Typed lines session) (verbose : Bool) (line : String) :
      Typed (lines ++ [line]) ((Shell.process verbose line).reached session)
  | meanwhile {lines : List String} {session : Session} (before : Typed lines session) (console : Console)
      (budget : Nat) : Typed lines { session with console := console, budget := budget }

variable {line text : String} {lines : List String} {number : Int} {change : Option Statement}

/-! ### Histories -/

theorem not_lastEdit_nil : ¬ LastEdit [] number change := by
  rintro ⟨before, line, after, split, _⟩
  simp at split

/-- What is typed last either makes the change, or leaves the last edit before it. -/
theorem lastEdit_concat_iff :
    LastEdit (lines ++ [line]) number change ↔
      Edits (Text.trimmed line.toList) number change ∨
        (¬ Clears line ∧ ∀ other, ¬ Edits (Text.trimmed line.toList) number other) ∧ LastEdit lines number change := by
  constructor
  · rintro ⟨before, found, after, split, edits, others⟩
    rcases List.eq_nil_or_concat' after with rfl | ⟨middle, last, rfl⟩
    · obtain ⟨_, same⟩ := List.append_inj' split rfl
      obtain rfl : line = found := by simpa using same
      exact .inl edits
    · rw [← List.cons_append, ← List.append_assoc] at split
      obtain ⟨rfl, same⟩ := List.append_inj' split rfl
      obtain rfl : line = last := by simpa using same
      refine .inr ⟨others line (by simp), before, found, middle, rfl, edits, ?_⟩
      exact fun later member => others later (by simp [member])
  · rintro (edits | ⟨other, before, found, after, rfl, edits, others⟩)
    · exact ⟨lines, line, [], rfl, edits, by simp⟩
    · refine ⟨before, found, after ++ [line], by simp, edits, fun later member => ?_⟩
      rcases List.mem_append.1 member with member | member
      · exact others later member
      · rw [List.mem_singleton.1 member]
        exact other

/-! ### Lines that edit -/

theorem toList_of_trim (trims : Text.trim line = text) : text.toList = Text.trimmed line.toList := by
  rw [← trims, Text.trim, String.toList_ofList]

theorem trimmed_of_trim (trims : Text.trim line = text) : Text.trimmed text.toList = text.toList := by
  rw [toList_of_trim trims, Text.trimmed_trimmed]

/-- A line that starts with a digit is handled as an edit. -/
theorem handle_of_digit {c : Char} {rest : List Char} (bare : Text.trimmed text.toList = text.toList)
    (shown : text.toList = c :: rest) (digit : c.isDigit = true) :
    Shell.handle text = (do edit (c :: rest); return true) := by
  have accepts : accept text = edit (c :: rest) := by
    unfold accept
    rw [bare, shown]
    exact if_pos digit
  have other : ∀ first ∈ (Lexer.tokens text.toList).head?, first.command? = none := by
    intro first isFirst
    obtain ⟨numeral, later, listed⟩ := @Lexer.tokens_of_isDigit c rest digit
    rw [shown, listed, List.head?_cons, Option.mem_def, Option.some.injEq] at isFirst
    rw [← isFirst]
    rfl
  rw [Shell.handle_eq_accept other, accepts]

theorem process_of_digit {c : Char} {rest : List Char} (trims : Text.trim line = text) (shown : text.toList = c :: rest)
    (digit : c.isDigit = true) (verbose : Bool) :
    Shell.process verbose line =
      Step.onFault (do edit (c :: rest); return true) fun cause => do
        Shell.report verbose text cause
        return true := by
  rw [Shell.process_eq, trims, handle_of_digit (trimmed_of_trim trims) shown digit]

/-- An edit is made, and nothing else. -/
theorem process_of_edits (edits : Edits (Text.trimmed line.toList) number change) (verbose : Bool) (session : Session) :
    ∃ noted, Shell.process verbose line session =
      .ok true { session with program := session.program.edited number change, noted := noted } := by
  obtain ⟨c, rest, shown, digit⟩ := edits.starts
  obtain ⟨noted, made⟩ := put_apply number change session
  refine ⟨noted, ?_⟩
  rw [process_of_digit rfl ((toList_of_trim rfl).trans shown) digit, ← shown, edits.edit_eq, Step.onFault,
    Step.bind_apply, made]
  rfl

/-- A line that starts with a digit changes no variable, and writes a message only where
    it is refused. -/
theorem process_of_digit_quiet {c : Char} {rest : List Char} (shown : Text.trimmed line.toList = c :: rest)
    (digit : c.isDigit = true) (verbose : Bool) (session : Session) :
    ((Shell.process verbose line).reached session).vars = session.vars ∧
      (verbose = false →
        ((Shell.process verbose line).reached session).console = session.console ∨
          ∃ cause : Fault, ((Shell.process verbose line).reached session).console =
            session.console.record (.line cause.message)) := by
  rcases edits_or_fails (Text.getLast?_trimmed line.toList) with ⟨number, change, edits⟩ | ⟨stop, failed⟩
  · obtain ⟨noted, made⟩ := process_of_edits edits verbose session
    rw [Step.reached, Step.outcome, made]
    exact ⟨rfl, fun _ => .inl rfl⟩
  · obtain ⟨text, trims⟩ : ∃ text, Text.trim line = text := ⟨_, rfl⟩
    have handled : Shell.process verbose line session =
        Step.onFault (throw stop) (fun cause => do Shell.report verbose text cause; return true) session := by
      rw [process_of_digit trims ((toList_of_trim trims).trans shown) digit, ← shown, failed]
      rfl
    rw [Step.reached, Step.outcome, handled]
    cases stop with
    | fault cause =>
      have leaves : Step.Leaves (fun session => session.vars) (do Shell.report verbose text cause; return true) :=
        ((leaves_report verbose text cause).comp Prod.snd).bind fun _ => Step.leaves_pure true
      refine ⟨(leaves session.vars).reached rfl, ?_⟩
      rintro rfl
      exact .inr ⟨cause, rfl⟩
    | _ => exact ⟨rfl, fun _ => .inl rfl⟩

/-! ### Lines that clear, and others -/

theorem program_of_clears (clears : Clears line) (verbose : Bool) (session : Session) :
    ((Shell.process verbose line).reached session).program = {} := by
  obtain ⟨noted, cleared⟩ := Shell.handle_clear session
  rw [Shell.process_eq, show Text.trim line = Command.clear.word from clears, Step.reached, Step.outcome, Step.onFault,
    cleared]

/-- A line that neither clears nor edits leaves a program that no cursor stands in. -/
theorem program_of_others {session : Session} (nowhere : session.program.cursor = none) (keeps : ¬ Clears line)
    (other : ∀ number change, ¬ Edits (Text.trimmed line.toList) number change) (verbose : Bool) :
    ((Shell.process verbose line).reached session).program = session.program := by
  obtain ⟨text, trims⟩ : ∃ text, Text.trim line = text := ⟨_, rfl⟩
  have shown := toList_of_trim trims
  have bare := trimmed_of_trim trims
  have blind : ∀ action : Action Unit, Step.Leaves holdings action →
      Step.Keeps (fun reached => reached.program = session.program) (fun _ => True) action :=
    fun action leaves => leaves.keeps fun held => held.1 = session.program
  have commands : ∀ command : Command, Lexer.tokens text.toList = [⟨.word, command.word⟩] →
      Step.Keeps (fun reached => reached.program = session.program) (fun _ => True) (Shell.perform command) := by
    intro command listed
    refine keeps_command blind (keeps_program_run nowhere) command fun isClear => absurd ?_ keeps
    have word := Lexer.eq_of_tokens_singleton bare listed
    rw [isClear] at word
    exact trims.trans word
  have accepts : Step.Keeps (fun reached => reached.program = session.program) (fun _ => True) (accept text) := by
    rcases accept_cases text with ⟨number, change, edits, _⟩ | same | ⟨stop, same⟩ | ⟨rest, same⟩
    · rw [bare, shown] at edits
      exact absurd edits (other number change)
    · exact same ▸ Step.keeps_pure trivial
    · exact same ▸ Step.keeps_throw stop
    · exact same ▸ keeps_program_executeAtOnce nowhere rest
  exact (keeps_process blind trims commands accepts verbose).reached rfl

/-! ### Typing -/

theorem Typed.reachable {session : Session} (typed : Typed lines session) : session.Reachable := by
  induction typed with
  | fresh console budget => exact .fresh console budget
  | @line lines session _ verbose line ih =>
    have called := ih.call (.process verbose line)
    have same : (Call.process verbose line).action.reached session = (Shell.process verbose line).reached session := by
      unfold Call.action Step.reached Step.outcome
      dsimp only
      rw [Step.bind_apply]
      cases Shell.process verbose line session <;> rfl
    rwa [same] at called
  | meanwhile _ console budget ih => exact ih.meanwhile console budget

/-- Lines may be typed one after another. -/
theorem Typed.foldl {session : Session} (typed : Typed lines session) (verbose : Bool) (more : List String) :
    Typed (lines ++ more) (more.foldl (fun session line => (Shell.process verbose line).reached session) session) := by
  induction more generalizing lines session with
  | nil => simpa using typed
  | cons line later ih => simpa using ih (typed.line verbose line)

theorem not_clears_of_edits (edits : Edits (Text.trimmed line.toList) number change) : ¬ Clears line := by
  intro clears
  obtain ⟨c, rest, shown, digit⟩ := edits.starts
  have first : Command.clear.word.toList.head? = some 'C' := by decide +kernel
  rw [toList_of_trim clears, shown] at first
  cases first
  cases digit

theorem Typed.ordered {session : Session} (typed : Typed lines session) : Program.Ordered session.program.lines :=
  typed.reachable.proper.program.ordered

theorem Typed.mem_lines_iff {session : Session} (typed : Typed lines session) (number : Int) (statement : Statement) :
    (number, statement) ∈ session.program.lines ↔ LastEdit lines number (some statement) := by
  induction typed with
  | fresh console budget => simp [not_lastEdit_nil]
  | meanwhile _ console budget ih => exact ih
  | @line lines session typed verbose line ih =>
    rw [lastEdit_concat_iff, ← ih]
    by_cases clears : Clears line
    · have noEdit : ¬ Edits (Text.trimmed line.toList) number (some statement) :=
        fun edits => not_clears_of_edits edits clears
      rw [program_of_clears clears]
      simp [noEdit, clears]
    · by_cases editing : ∃ number change, Edits (Text.trimmed line.toList) number change
      · obtain ⟨edited, change, edits⟩ := editing
        obtain ⟨noted, made⟩ := process_of_edits edits verbose session
        have here : Edits (Text.trimmed line.toList) number (some statement) ↔
            number = edited ∧ change = some statement := by
          constructor
          · intro edits'
            obtain ⟨rfl, rfl⟩ := edits.unique edits'
            exact ⟨rfl, rfl⟩
          · rintro ⟨rfl, rfl⟩
            exact edits
        have elsewhere : (∀ other, ¬ Edits (Text.trimmed line.toList) number other) ↔ number ≠ edited := by
          constructor
          · rintro none rfl
            exact none change edits
          · exact fun differ other edits' => differ (edits.unique edits').1.symm
        rw [Step.reached, Step.outcome, made, typed.ordered.mem_edited_iff, here, elsewhere]
        simp only [clears, not_false_eq_true, true_and]
      · have other : ∀ number change, ¬ Edits (Text.trimmed line.toList) number change :=
          fun number change edits => editing ⟨number, change, edits⟩
        rw [program_of_others typed.reachable.cursor_eq_none clears other]
        simp [clears, other]

/-- The program consists of the last edits of its lines, in the order of their numbers.
    A line that is no edit and does not clear leaves the program as it is, and one that
    starts with a digit changes no variable and writes at most one message. -/
theorem Typed.program_eq_last_edits {session : Session} (typed : Typed lines session) :
    Program.Ordered session.program.lines ∧
      (∀ number statement,
        (number, statement) ∈ session.program.lines ↔ LastEdit lines number (some statement)) ∧
      ∀ verbose line,
        (¬ Clears line → (∀ number change, ¬ Edits (Text.trimmed line.toList) number change) →
          ((Shell.process verbose line).reached session).program = session.program) ∧
        ∀ c rest, Text.trimmed line.toList = c :: rest → c.isDigit = true →
          ((Shell.process verbose line).reached session).vars = session.vars ∧
            (verbose = false →
              ((Shell.process verbose line).reached session).console = session.console ∨
                ∃ cause : Fault, ((Shell.process verbose line).reached session).console =
                  session.console.record (.line cause.message)) := by
  refine ⟨typed.ordered, typed.mem_lines_iff, fun verbose line => ⟨fun keeps other => ?_, ?_⟩⟩
  · exact program_of_others typed.reachable.cursor_eq_none keeps other verbose
  · exact fun c rest shown digit => process_of_digit_quiet shown digit verbose session

/-- `7 IF` is refused and `8` takes line 8 out again, so that line 7 is left as it was
    stored the second time. -/
theorem program_eq_last_edits_mixed :
    ∃ session : Session,
      Typed ["10 END", "CLEAR", "007 PRINT 1", "RUN", "7 PRINT A", "7 IF", "8 END", " 8 "] session ∧
      session.program.lines = [(7, ⟨.known .print, "PRINT A"⟩)] ∧
      LastEdit ["10 END", "CLEAR", "007 PRINT 1", "RUN", "7 PRINT A", "7 IF", "8 END", " 8 "] 7
        (some ⟨.known .print, "PRINT A"⟩) := by
  have typed := (Typed.fresh {} 9).foldl false
    ["10 END", "CLEAR", "007 PRINT 1", "RUN", "7 PRINT A", "7 IF", "8 END", " 8 "]
  have lines : (["10 END", "CLEAR", "007 PRINT 1", "RUN", "7 PRINT A", "7 IF", "8 END", " 8 "].foldl
      (fun session line => (Shell.process false line).reached session) { budget := 9 }).program.lines =
      [(7, ⟨.known .print, "PRINT A"⟩)] := by decide +kernel
  refine ⟨_, typed, lines, (typed.program_eq_last_edits.2.1 7 _).1 ?_⟩
  rw [lines]
  exact List.mem_cons_self

end Session

end LineBasic
