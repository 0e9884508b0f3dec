import Mathlib
import LineBasic.Proofs.Session.Escapes
import LineBasic.Proofs.Token.Concatenation

/-!
What a line demands of the shell. A line is blank, a command, a command that more comes
after, an edit or a statement to be executed at once. Which of these it is can be told from
its tokens (`Shell.makes_iff`), so that no line is two of them, and a line may be none. The
shell meets the demand that a line makes and does nothing besides, and refuses a line that
makes none (`Session.Reachable.process_meets_demand`).
-/
namespace LineBasic

namespace Shell

/-- What a line can demand. -/
inductive Demand where
  | nothing
  | command (command : Command)
  /-- A command that more comes after. -/
  | overfull (command : Command)
  | edit
  /-- A statement that needs no line number. -/
  | statement (keyword : Keyword)
  deriving DecidableEq, Repr

/-- The text, which has no blanks at its ends, makes the demand. -/
inductive Makes (text : String) : Demand → Prop
  | nothing (empty : text = "") : Makes text .nothing
  | command {command : Command} (alone : text = command.word) : Makes text (.command command)
  | overfull {command : Command} {next : Token} {later : List Token}
      (listed : tokenize text = .ok (⟨.word, command.word⟩ :: next :: later)) : Makes text (.overfull command)
  | edit {first : Char} {rest : List Char} (starts : text.toList = first :: rest) (digit : first.isDigit = true) :
      Makes text .edit
  | statement {keyword : Keyword} {operands : List Token} (immediate : keyword.isImmediate = true)
      (listed : tokenize text = .ok (⟨.word, keyword.word⟩ :: operands)) : Makes text (.statement keyword)

/-- The demand that some tokens make, the tokens of a text without blanks at its ends. -/
def demand? : List Token → Option Demand
  | [] => some .nothing
  | first :: later =>
    match first.command?, first.keyword? with
    | some command, _ => some (if later.isEmpty then .command command else .overfull command)
    | none, some keyword => if keyword.isImmediate then some (.statement keyword) else none
    | none, none => if first.kind = .number then some .edit else none

/-- The action, after which its fault is reported if it has one. -/
def reporting (verbose : Bool) (text : String) (action : Action Bool) : Action Bool :=
  Step.onFault action fun cause => do
    report verbose text cause
    return true

/-- What the execution of statements takes: the budget, and the replies of the user. -/
def means (session : Session) : Nat × List Reply := (session.budget, session.console.replies)

/-- The action tells the user of the fault, and does nothing else. -/
def Refuses (verbose : Bool) (cause : Fault) (before : Session) (handled : Action Bool) : Prop :=
  ∃ after, handled before = .ok true after ∧ after.program = before.program ∧ after.vars = before.vars ∧
    means after = means before ∧
    after.console.transcript = before.console.transcript ++ reportLines verbose cause

/-- In the session the action meets the demand that the text makes, and does nothing
    besides. An edit that cannot be made is refused, or is a number with too many digits. -/
def Meets (verbose : Bool) (text : String) (before : Session) (handled : Action Bool) : Demand → Prop
  | .nothing => handled before = .ok true before
  | .command command =>
    handled = reporting verbose text (do perform command; return command != .quit) ∧
      (handled.reached before).program = (if command = .clear then {} else before.program) ∧
      (command ≠ .run → means (handled.reached before) = means before)
  | .overfull _ => Refuses verbose .malformed before handled
  | .edit =>
    (∃ number change noted, Session.Edits text.toList number change ∧
      handled before =
        .ok true { before with program := before.program.edited number change, noted := noted }) ∨
    (∀ number change, ¬ Session.Edits text.toList number change) ∧
      ((∃ cause, Stop.OfEditing (.fault cause) ∧ Refuses verbose cause before handled) ∨
        ∃ count, digitLimit < count ∧ handled before = .error (.tooManyDigits count) before)
  | .statement keyword =>
    handled = reporting verbose text (do Session.execute ⟨.known keyword, text⟩; return true) ∧
      (handled.reached before).program = before.program

variable {text : String} {demand : Demand}

/-! ### Demands -/

theorem tokens_command (command : Command) : Lexer.tokens command.word.toList = [⟨.word, command.word⟩] := by
  cases command <;> decide +kernel

theorem demand?_of_makes (makes : Makes text demand) : demand? (Lexer.tokens text.toList) = some demand := by
  cases makes with
  | nothing empty =>
    rw [empty, String.toList_empty, Lexer.tokens_nil]
    rfl
  | command alone =>
    rw [alone, tokens_command, demand?, Token.command?_eq_some_iff.2 rfl]
    rfl
  | overfull listed =>
    rw [tokenize_eq, Except.ok.injEq] at listed
    rw [listed, demand?, Token.command?_eq_some_iff.2 rfl]
    rfl
  | @edit first rest starts digit =>
    obtain ⟨numeral, later, listed⟩ := @Lexer.tokens_of_isDigit first rest digit
    rw [starts, listed]
    rfl
  | statement immediate listed =>
    rw [tokenize_eq, Except.ok.injEq] at listed
    rw [listed, demand?, command?_of_keyword, Token.keyword?_eq_some_iff.2 ⟨rfl, rfl⟩]
    exact if_pos immediate

theorem makes_of_demand? (bare : Text.trimmed text.toList = text.toList)
    (found : demand? (Lexer.tokens text.toList) = some demand) : Makes text demand := by
  cases listed : Lexer.tokens text.toList with
  | nil =>
    rw [listed] at found
    cases found
    exact .nothing (String.toList_injective (Lexer.eq_nil_of_tokens_eq_nil bare listed))
  | cons first later =>
    rw [listed, demand?] at found
    cases isCommand : first.command? with
    | some command =>
      rw [isCommand] at found
      obtain rfl := Token.command?_eq_some_iff.1 isCommand
      cases later with
      | nil =>
        cases found
        exact .command (Lexer.eq_of_tokens_singleton bare listed)
      | cons next later =>
        cases found
        exact .overfull (by rw [tokenize_eq, listed])
    | none =>
      rw [isCommand] at found
      cases isKeyword : first.keyword? with
      | some keyword =>
        simp only [isKeyword, Option.ite_none_right_eq_some, Option.some.injEq] at found
        obtain ⟨immediate, rfl⟩ := found
        obtain ⟨kind, name⟩ := first
        obtain ⟨rfl, rfl⟩ := Token.keyword?_eq_some_iff.1 isKeyword
        exact .statement immediate (by rw [tokenize_eq, listed])
      | none =>
        simp only [isKeyword, Option.ite_none_right_eq_some, Option.some.injEq] at found
        obtain ⟨numeral, rfl⟩ := found
        obtain ⟨kind, name⟩ := first
        obtain rfl : kind = .number := numeral
        obtain ⟨c, rest, shown, digit⟩ := Lexer.isDigit_of_tokens_numeral bare listed
        exact .edit shown digit

/-- The tokens of a text tell its demand, if it makes one. -/
theorem makes_iff (bare : Text.trimmed text.toList = text.toList) :
    Makes text demand ↔ demand? (Lexer.tokens text.toList) = some demand :=
  ⟨demand?_of_makes, makes_of_demand? bare⟩

theorem Makes.unique {other : Demand} (makes : Makes text demand) (makes' : Makes text other) : demand = other := by
  have same := demand?_of_makes makes
  rw [demand?_of_makes makes', Option.some.injEq] at same
  exact same.symm

/-- What edits the program makes no other demand. -/
theorem Makes.eq_edit {number : Int} {change : Option Statement} (makes : Makes text demand)
    (edits : Session.Edits text.toList number change) : demand = .edit := by
  obtain ⟨c, rest, shown, digit⟩ := edits.starts
  exact makes.unique (.edit shown digit)

/-! ### Handling -/

section
variable {verbose : Bool} {before : Session}

/-- Where handling the text fails at once, the fault is all that the user is told. -/
theorem refuses_of_fail {cause : Fault} (fails : handle text before = .error (.fault cause) before) :
    Refuses verbose cause before (reporting verbose text (handle text)) := by
  unfold Refuses reporting Step.onFault
  rw [fails]
  cases verbose with
  | true => exact ⟨_, rfl, rfl, rfl, rfl, by simp [reportLines]⟩
  | false => exact ⟨_, rfl, rfl, rfl, rfl, by simp [reportLines]⟩

theorem leaves_means_say (told : String) : Step.Leaves means (Session.say told) :=
  fun _ _ same => ⟨trivial, same⟩

theorem leaves_means_note (level : LogLevel) (source : LogSource) (told : String) :
    Step.Leaves means (Session.note level source told) := Step.leaves_modify fun _ => rfl

theorem leaves_means_report (cause : Fault) : Step.Leaves means (report verbose text cause) := by
  refine (leaves_means_note _ _ _).bind fun _ => ?_
  cases verbose with
  | true => exact (leaves_means_say _).bind fun _ => (leaves_means_say _).bind fun _ => leaves_means_say _
  | false => exact leaves_means_say _

/-- Only a run executes statements. -/
theorem leaves_means_command {command : Command} (other : command ≠ .run) : Step.Leaves means (perform command) := by
  cases command with
  | run => exact absurd rfl other
  | list => exact Step.leaves_get.bind fun session seen => Step.keeps_forM fun told _ => leaves_means_say told seen
  | clear =>
    have forgets : Step.Leaves means (modify fun session : Session => { session with program := {}, vars := {} }) :=
      Step.leaves_modify fun _ => rfl
    exact forgets.bind fun _ => leaves_means_note _ _ _
  | help => exact leaves_means_say _
  | quit => exact Step.leaves_pure ()

theorem means_of_command {command : Command} (other : command ≠ .run) :
    means ((reporting verbose text (do perform command; return command != .quit)).reached before) = means before := by
  have leaves : Step.Leaves means (do perform command; return command != .quit) :=
    (leaves_means_command other).bind fun _ => Step.leaves_pure _
  have reports : ∀ cause, Step.Leaves means (do report verbose text cause; return true) :=
    fun cause => (leaves_means_report cause).bind fun _ => Step.leaves_pure _
  exact ((leaves (means before)).onFault fun cause => reports cause (means before)).reached rfl

theorem meets_edit (bare : Text.trimmed text.toList = text.toList) {first : Char} {rest : List Char}
    (starts : text.toList = first :: rest) (digit : first.isDigit = true) :
    Meets verbose text before (reporting verbose text (handle text)) .edit := by
  have handles : handle text = (do Session.edit text.toList; return true) := by
    rw [Session.handle_of_digit bare starts digit, starts]
  rcases Session.edits_or_fails (bare ▸ Text.getLast?_trimmed text.toList) with ⟨number, change, edits⟩ | ⟨stop, failed⟩
  · obtain ⟨noted, made⟩ := Session.put_apply number change before
    refine .inl ⟨number, change, noted, edits, ?_⟩
    rw [handles, edits.edit_eq, reporting, Step.onFault, Step.bind_apply, made]
    rfl
  · have fails : handle text before = .error stop before := by
      rw [handles, failed]
      rfl
    refine .inr ⟨fun number change edits => ?_, ?_⟩
    · have made := congrFun (edits.edit_eq.symm.trans failed) before
      exact absurd made (@Session.succeeds_put number change before stop before)
    · have allowed : stop.OfEditing := Session.stopsOnly_edit text.toList (congrFun failed before)
      cases allowed with
      | malformed => exact .inl ⟨_, .malformed, refuses_of_fail fails⟩
      | noSuchLine => exact .inl ⟨_, .noSuchLine, refuses_of_fail fails⟩
      | tooManyDigits long => exact .inr ⟨_, long, by rw [reporting, Step.onFault, fails]⟩

/-- A line that is a statement to be executed at once is executed. -/
theorem process_of_execute_ok {line : String} {keyword : Keyword} {operands : List Token} {after : Session}
    (immediate : keyword.isImmediate = true) (listed : Lexer.tokens line.toList = ⟨.word, keyword.word⟩ :: operands)
    (done : Session.execute ⟨.known keyword, Text.trim line⟩ before = .ok () after) (verbose : Bool) :
    process verbose line before = .ok true after := by
  rw [← Lexer.tokens_trim] at listed
  rw [process_eq, handle_of_statement immediate listed, Text.trim_trim, Step.onFault, Step.bind_apply, done]
  rfl

/-- A text that makes no demand is refused. -/
theorem handle_of_demand?_eq_none (bare : Text.trimmed text.toList = text.toList)
    (undemanding : demand? (Lexer.tokens text.toList) = none) : handle text = Step.fail .malformed := by
  obtain ⟨c, rest, shown⟩ : ∃ c rest, text.toList = c :: rest := by
    refine List.exists_cons_of_ne_nil fun empty => ?_
    rw [empty, Lexer.tokens_nil] at undemanding
    cases undemanding
  have other : ¬ c.isDigit = true := by
    intro digit
    rw [demand?_of_makes (.edit shown digit)] at undemanding
    cases undemanding
  have accepts : Session.accept text = Session.executeAtOnce text := by
    unfold Session.accept
    rw [bare, shown]
    dsimp only
    rw [if_neg other, ← shown, String.ofList_toList]
  cases listed : Lexer.tokens text.toList with
  | nil =>
    rw [listed] at undemanding
    cases undemanding
  | cons first later =>
    rw [listed, demand?] at undemanding
    have noCommand : first.command? = none := by
      by_contra known
      obtain ⟨command, isCommand⟩ := Option.ne_none_iff_exists'.1 known
      rw [isCommand] at undemanding
      cases undemanding
    have refused : Session.executeAtOnce text = Step.fail .malformed := by
      unfold Session.executeAtOnce
      rw [Statement.keyword?_eq, listed, List.head?_cons, Option.bind_some, Step.ofExcept_ok_bind]
      cases isKeyword : first.keyword? with
      | none => rfl
      | some keyword =>
        have numbered : ¬ keyword.isImmediate = true := by simpa [noCommand, isKeyword] using undemanding
        exact if_neg numbered
    have noFirst : ∀ token ∈ (Lexer.tokens text.toList).head?, token.command? = none := by
      rw [listed]
      rintro _ ⟨⟩
      exact noCommand
    rw [handle_eq_accept noFirst, accepts, refused]
    rfl

end

end Shell

namespace Session

variable {session : Session} {line : String} {demand : Shell.Demand}

theorem process_eq_reporting (verbose : Bool) (line : String) :
    Shell.process verbose line = Shell.reporting verbose (Text.trim line) (Shell.handle (Text.trim line)) :=
  Shell.process_eq verbose line

/-- Only an edit and `CLEAR` change a program that no cursor stands in. -/
theorem program_of_makes (nowhere : session.program.cursor = none) (makes : Shell.Makes (Text.trim line) demand)
    (noEdit : demand ≠ .edit) (noClear : demand ≠ .command .clear) (verbose : Bool) :
    ((Shell.process verbose line).reached session).program = session.program := by
  refine program_of_others nowhere (fun clears => noClear ?_) (fun number change edits => noEdit ?_) verbose
  · exact makes.unique (.command clears)
  · rw [← @toList_of_trim line (Text.trim line) rfl] at edits
    exact makes.eq_edit edits

theorem meets_of_makes (nowhere : session.program.cursor = none) (makes : Shell.Makes (Text.trim line) demand)
    (verbose : Bool) : Shell.Meets verbose (Text.trim line) session (Shell.process verbose line) demand := by
  have leaves := program_of_makes nowhere makes
  have bare := @trimmed_of_trim line (Text.trim line) rfl
  have processes := process_eq_reporting verbose line
  cases makes with
  | nothing empty =>
    rw [processes, empty, Shell.handle_nothing]
    rfl
  | @command command alone =>
    have listed : Lexer.tokens (Text.trim line).toList = [⟨.word, command.word⟩] := by rw [alone, Shell.tokens_command]
    have handles := Shell.handle_of_command listed
    refine ⟨by rw [processes, handles], ?_, fun other => ?_⟩
    · by_cases clears : command = .clear
      · subst clears
        rw [program_of_clears alone, if_pos rfl]
      · rw [leaves (by simp) (by simpa using clears), if_neg clears]
    · rw [processes, handles]
      exact Shell.means_of_command other
  | overfull listed =>
    rw [tokenize_eq, Except.ok.injEq] at listed
    rw [processes]
    exact Shell.refuses_of_fail (congrFun (Shell.handle_of_overfull listed) session)
  | edit starts digit =>
    rw [processes]
    exact Shell.meets_edit bare starts digit
  | statement immediate listed =>
    refine ⟨?_, leaves (by simp) (by simp) verbose⟩
    rw [tokenize_eq, Except.ok.injEq] at listed
    rw [processes, Shell.handle_of_statement immediate listed, Text.trim_trim]

theorem refuses_of_undemanding (undemanding : ∀ demand, ¬ Shell.Makes (Text.trim line) demand) (verbose : Bool) :
    Shell.Refuses verbose .malformed session (Shell.process verbose line) := by
  have bare := @trimmed_of_trim line (Text.trim line) rfl
  have none : Shell.demand? (Lexer.tokens (Text.trim line).toList) = .none := by
    cases found : Shell.demand? (Lexer.tokens (Text.trim line).toList) with
    | none => rfl
    | some demand => exact absurd (Shell.makes_of_demand? bare found) (undemanding demand)
  rw [process_eq_reporting]
  exact Shell.refuses_of_fail (congrFun (Shell.handle_of_demand?_eq_none bare none) session)

/-- A line makes one demand at most. The shell meets it, and refuses a line that makes
    none. -/
theorem Reachable.process_meets_demand {session : Session} (reachable : session.Reachable) (verbose : Bool)
    (line : String) :
    (∀ one other, Shell.Makes (Text.trim line) one → Shell.Makes (Text.trim line) other → one = other) ∧
      (∀ demand, Shell.Makes (Text.trim line) demand →
        Shell.Meets verbose (Text.trim line) session (Shell.process verbose line) demand) ∧
      ((∀ demand, ¬ Shell.Makes (Text.trim line) demand) →
        Shell.Refuses verbose .malformed session (Shell.process verbose line)) := by
  refine ⟨fun one other makes makes' => makes.unique makes', fun demand makes => ?_, fun undemanding => ?_⟩
  · exact meets_of_makes reachable.cursor_eq_none makes verbose
  · exact refuses_of_undemanding undemanding verbose

/-- Where line 10 is stored, `RUN 10` and `GOTO 10` are refused: the one is a command that
    more comes after, the other a statement that needs a line number. -/
theorem process_meets_demand_refused :
    ∃ session : Session, session.Reachable ∧ session.program.contains 10 = true ∧
      Shell.Makes (Text.trim " RUN 10") (.overfull .run) ∧
      Shell.Refuses true .malformed session (Shell.process true " RUN 10") ∧
      (∀ demand, ¬ Shell.Makes (Text.trim "GOTO 10") demand) ∧
      Shell.Refuses false .malformed session (Shell.process false "GOTO 10") := by
  have typed := (Typed.fresh {} 9).line false "10 END"
  have overfull : Shell.Makes (Text.trim " RUN 10") (.overfull .run) :=
    .overfull (show tokenize (Text.trim " RUN 10") = .ok [⟨.word, Command.run.word⟩, ⟨.number, "10"⟩] by
      decide +kernel)
  have undemanding : ∀ demand, ¬ Shell.Makes (Text.trim "GOTO 10") demand := by
    intro demand makes
    have none : Shell.demand? (Lexer.tokens (Text.trim "GOTO 10").toList) = .none := by decide +kernel
    rw [Shell.demand?_of_makes makes] at none
    cases none
  have stored : ((Shell.process false "10 END").reached { budget := 9 }).program.contains 10 = true := by
    decide +kernel
  refine ⟨_, typed.reachable, stored, overfull, ?_, undemanding, ?_⟩
  · exact (typed.reachable.process_meets_demand true " RUN 10").2.1 _ overfull
  · exact (typed.reachable.process_meets_demand false "GOTO 10").2.2 undemanding

end Session

end LineBasic
