import Mathlib
import LineBasic.Proofs.Expr.Values
import LineBasic.Proofs.Program.Order
import LineBasic.Proofs.Statement.Operands
import LineBasic.Session.Edit

/-!
What holds of a session whatever is done in it. Its variables are well formed, and
its program holds only checked lines, in order and under numbers that lines can
have (`Session.Proper`). Every action keeps this, also where it fails: it is shown
for each action of a session, from the reading of a value up to a whole run.
-/
namespace LineBasic

/-- The lines are ordered, their numbers are those that lines can have, and each
    line has passed the check and is of the kind that its first word says. -/
structure Program.Proper (program : Program) : Prop where
  ordered : Program.Ordered program.lines
  numbered : ∀ line ∈ program.lines, 1 ≤ line.1 ∧ line.1 ≤ Word.highest
  checked : ∀ line ∈ program.lines, Form.check line.2.source = .ok () ∧
    ∃ keyword, Statement.keyword? line.2.source = .ok (some keyword) ∧ line.2.kind = .known keyword

namespace Program

theorem proper_empty : Proper {} := ⟨List.Pairwise.nil, by simp, by simp⟩

/-- The cursor does not matter. -/
theorem Proper.of_lines {program other : Program} (proper : program.Proper) (same : other.lines = program.lines) :
    other.Proper := by
  obtain ⟨ordered, numbered, checked⟩ := proper
  rw [← same] at ordered numbered checked
  exact ⟨ordered, numbered, checked⟩

theorem Proper.insert {program : Program} (proper : program.Proper) {number : Int} {text : String} {keyword : Keyword}
    (positive : 1 ≤ number) (inside : number ≤ Word.highest) (checked : Form.check text = .ok ())
    (starts : Statement.keyword? text = .ok (some keyword)) :
    (program.insert number ⟨.known keyword, text⟩).Proper := by
  refine ⟨proper.ordered.place _ _, fun line member => ?_, fun line member => ?_⟩
  · rcases mem_of_mem_place member with rfl | member
    · exact ⟨positive, inside⟩
    · exact proper.numbered line member
  · rcases mem_of_mem_place member with rfl | member
    · exact ⟨checked, keyword, starts, rfl⟩
    · exact proper.checked line member

theorem Proper.erase {program : Program} (proper : program.Proper) (number : Int) : (program.erase number).Proper := by
  unfold Program.erase
  by_cases stored : program.contains number = true
  · rw [if_pos stored]
    exact ⟨proper.ordered.filter _, fun line member => proper.numbered line (List.mem_of_mem_filter member),
      fun line member => proper.checked line (List.mem_of_mem_filter member)⟩
  · rwa [if_neg stored]

end Program

/-- The program is proper, and the variables are well formed. -/
structure Session.Proper (session : Session) : Prop where
  program : session.program.Proper
  vars : session.vars.WellFormed

namespace Session

/-- What a session holds, apart from its console, its log and its budget. -/
def holdings (session : Session) : Program × Variables := (session.program, session.vars)

/-- What a session holds, together with its console. -/
def content (session : Session) : (Program × Variables) × Console := (session.holdings, session.console)

/-- The action keeps sessions proper. -/
abbrev KeepsProper {α : Type} (action : Action α) : Prop := Step.Keeps Proper (fun _ => True) action

/-- What leaves the program and the variables keeps a session proper. -/
theorem keepsProper_of_leaves {α : Type} {action : Action α} (leaves : Step.Leaves holdings action) :
    KeepsProper action := by
  intro session proper
  have kept := leaves.keeps (fun held => held.1.Proper ∧ held.2.WellFormed) session ⟨proper.program, proper.vars⟩
  cases ended : action session <;> simp only [ended] at kept ⊢
  · exact ⟨trivial, kept.2.1, kept.2.2⟩
  · exact ⟨kept.1, kept.2⟩

/-! ### Actions that do not touch the program and the variables -/

/-- What happens on the console leaves what does not show it. -/
theorem leaves_onConsole {τ α : Type} {view : Session → τ}
    (blind : ∀ session console, view { session with console := console } = view session) (action : Step Console α) :
    Step.Leaves view (onConsole action) :=
  Step.leaves_onPart blind action

theorem leaves_say (text : String) : Step.Leaves holdings (say text) := leaves_onConsole (fun _ _ => rfl) _

theorem leaves_ask (prompt : String) : Step.Leaves holdings (ask prompt) := leaves_onConsole (fun _ _ => rfl) _

theorem leaves_note (level : LogLevel) (source : LogSource) (text : String) :
    Step.Leaves content (note level source text) :=
  Step.leaves_modify fun _ => rfl

theorem leaves_countDown : Step.Leaves content countDown := by
  intro held session same
  unfold countDown
  cases session.budget with
  | zero => exact same
  | succ left => exact ⟨trivial, same⟩

theorem keeps_say (text : String) : KeepsProper (say text) := keepsProper_of_leaves (leaves_say text)

theorem keeps_ask (prompt : String) : KeepsProper (ask prompt) := keepsProper_of_leaves (leaves_ask prompt)

theorem keeps_note (level : LogLevel) (source : LogSource) (text : String) : KeepsProper (note level source text) :=
  keepsProper_of_leaves ((leaves_note level source text).comp Prod.fst)

theorem keeps_countDown : KeepsProper countDown := keepsProper_of_leaves (leaves_countDown.comp Prod.fst)

/-- Asking for an integer leaves what does not show the console and the log. -/
theorem leaves_askInteger [Screen] {τ : Type} {view : Session → τ}
    (blind : ∀ session console noted, view { session with console := console, noted := noted } = view session)
    (bound : Nat) : Step.Leaves view (askInteger bound) := by
  have onConsole : ∀ {α : Type} (action : Step Console α), Step.Leaves view (Session.onConsole action) :=
    leaves_onConsole fun session console => blind session console session.noted
  have notes : ∀ text, Step.Leaves view (note .debug .statements text) :=
    fun text => Step.leaves_modify fun session => blind session session.console _
  induction bound with
  | zero => exact Step.leaves_throw _
  | succ bound ih =>
    refine (onConsole _).bind fun reply => ?_
    cases Decimal.readReply reply with
    | ok value => exact Step.leaves_pure value
    | error stop =>
      cases stop with
      | fault cause => exact (notes _).bind fun _ => (onConsole _).bind fun _ => ih
      | _ => exact Step.leaves_throw _

/-! ### Executing -/

theorem keeps_onVariables {α : Type} {answers : α → Prop} {action : Step Variables α}
    (keeps : Step.Keeps Variables.WellFormed answers action) : Step.Keeps Proper answers (onVariables action) :=
  Step.keeps_onPart keeps (fun _ proper => proper.vars) fun _ _ proper formed => ⟨proper.program, formed⟩

theorem keeps_editProgram {change : Program → Program} (same : ∀ program, (change program).lines = program.lines) :
    KeepsProper (editProgram change) :=
  Step.keeps_modify fun session proper => ⟨proper.program.of_lines (same session.program), proper.vars⟩

theorem keeps_onProgram {α : Type} {action : Step Program α} (leaves : Step.Leaves Program.lines action) :
    KeepsProper (onProgram action) := by
  have keeps : Step.Keeps Program.Proper (fun _ => True) action := by
    intro program proper
    have kept := leaves program.lines program rfl
    cases ended : action program <;> simp only [ended] at kept ⊢
    · exact ⟨trivial, proper.of_lines kept.2⟩
    · exact proper.of_lines kept
  exact Step.keeps_onPart keeps (fun _ proper => proper.program) fun _ _ proper kept => ⟨kept, proper.vars⟩

theorem leaves_fetch (number : Int) : Step.Leaves Program.lines (Program.fetch number) := by
  intro lines program same
  unfold Program.fetch
  cases program.get? number with
  | none => exact same
  | some statement => exact ⟨trivial, same⟩

theorem leaves_jump (number : Int) : Step.Leaves Program.lines (Program.jump number) := by
  intro lines program same
  unfold Program.jump
  split_ifs with stored
  · exact ⟨trivial, same⟩
  · exact same

theorem keeps_advance : KeepsProper advance := keeps_editProgram fun _ => rfl

theorem keeps_jump (number : Int) : KeepsProper (onProgram (Program.jump number)) :=
  keeps_onProgram (leaves_jump number)

theorem keeps_evaluate {result : Except Stop Expr} {tokens : List Token} (lexed : ∀ token ∈ tokens, token.Lexed)
    (derives : ∀ expression, result = .ok expression → Derives 0 tokens expression) :
    KeepsProper (evaluate result) := by
  refine (Step.keeps_ofExcept result).bind fun expression read => ?_
  have formed := (derives expression read).wellFormed lexed
  exact (keeps_onVariables (Expr.keeps_eval formed)).mono fun _ _ => trivial

theorem keeps_assign {target : Token} (named : target.isVariable = true) {value : Int} (inside : Word.InRange value) :
    KeepsProper (onVariables (Variables.assign target.text value)) := by
  unfold Token.isVariable at named
  obtain ⟨_, identifies⟩ := Bool.and_eq_true_iff.1 named
  exact keeps_onVariables (Variables.keeps_assign identifies inside)

theorem keeps_askInteger (bound : Nat) : Step.Keeps Proper Word.InRange (askInteger bound) := by
  induction bound with
  | zero => exact Step.keeps_throw _
  | succ bound ih =>
    refine (keeps_ask _).bind fun reply _ => ?_
    cases read : Decimal.readReply reply with
    | ok value => exact Step.keeps_pure (Decimal.readReply_inRange read)
    | error stop =>
      cases stop with
      | fault cause =>
        refine (keeps_note _ _ _).bind fun _ _ => ?_
        exact (keeps_say _).bind fun _ _ => ih
      | _ => exact Step.keeps_throw _

theorem keeps_perform (keyword : Keyword) (source : String) : KeepsProper (perform keyword source) := by
  have lexed : ∀ token ∈ Operands.operandTokens source, token.Lexed := fun _ => Operands.lexed_of_mem_operandTokens
  cases keyword with
  | remark => exact keeps_advance
  | stop => exact keeps_editProgram fun _ => rfl
  | assign =>
    refine (Step.keeps_ofExcept _).bind fun answer read => ?_
    obtain ⟨target, sign, tokens, split, named, text, _, derived⟩ := (Operands.after_assignment_iff _ _).1 read
    have formed : answer.2.WellFormed := derived.wellFormed fun token member => lexed token (by simp [split, member])
    refine (keeps_onVariables (Expr.keeps_eval formed)).bind fun value inside => ?_
    rw [← text]
    exact (keeps_assign named inside).bind fun _ _ => keeps_advance
  | print =>
    have derives := fun expression => (Operands.after_readAll_iff source expression).1
    refine (keeps_evaluate lexed derives).bind fun value _ => ?_
    exact (keeps_say _).bind fun _ _ => keeps_advance
  | input =>
    refine (Step.keeps_ofExcept _).bind fun name read => ?_
    obtain ⟨target, _, named, rfl⟩ := (Operands.after_onlyVariable_iff _ _).1 read
    refine Step.keeps_get.bind fun session _ => (keeps_askInteger _).bind fun value inside => ?_
    exact (keeps_assign named inside).bind fun _ _ => keeps_advance
  | jump => exact (Step.keeps_ofExcept _).bind fun number _ => keeps_jump number
  | branch =>
    refine (Step.keeps_ofExcept _).bind fun tokens read => ?_
    rw [Operands.after_remaining, Except.ok.injEq] at read
    subst read
    cases split : Branch.ofTokens? (Operands.operandTokens source) with
    | none => exact Step.keeps_fail _
    | some branch =>
      obtain ⟨sign, word, parts, -⟩ := Branch.ofTokens?_eq_some_iff.1 split
      have lexedLeft : ∀ token ∈ branch.left, token.Lexed := fun token member => lexed token (by simp [parts, member])
      have lexedRight : ∀ token ∈ branch.right, token.Lexed := fun token member => lexed token (by simp [parts, member])
      have derivesLeft := fun expression =>
        (Expr.ofTokens_iff_derives (fun token member => (lexedLeft token member).isEnding_eq_false) expression).1
      have derivesRight := fun expression =>
        (Expr.ofTokens_iff_derives (fun token member => (lexedRight token member).isEnding_eq_false) expression).1
      refine (keeps_evaluate lexedLeft derivesLeft).bind fun left _ => ?_
      refine (keeps_evaluate lexedRight derivesRight).bind fun right _ => ?_
      split_ifs with holds
      · exact (Step.keeps_ofExcept _).bind fun number _ => keeps_jump number
      · exact keeps_advance

theorem keeps_execute (statement : Statement) : KeepsProper (execute statement) := by
  refine keeps_countDown.bind fun _ _ => ?_
  cases statement.kind with
  | unknown name => exact Step.keeps_fail _
  | known keyword =>
    refine Step.keeps_get.bind fun session _ => ?_
    exact (keeps_note _ _ _).bind fun _ _ => keeps_perform keyword statement.source

/-! ### Editing -/

/-- A line number is positive, and not above the highest value. -/
theorem lineNumber_eq_ok_iff {digits : List Char} {number : Int} :
    lineNumber digits = .ok number ↔
      digits.length ≤ digitLimit ∧ (Decimal.value digits : Int) = number ∧ 1 ≤ number ∧ number ≤ Word.highest := by
  unfold lineNumber Decimal.convert
  simp only [bind, Except.bind]
  by_cases long : digitLimit < digits.length
  · rw [if_pos long]
    constructor
    · intro read
      cases read
    · rintro ⟨short, _⟩
      omega
  · rw [if_neg long]
    dsimp only
    split_ifs with zero above
    · simp only [false_iff]
      omega
    · simp only [false_iff]
      omega
    · rw [Except.ok.injEq]
      constructor
      · intro same
        exact ⟨by omega, same, by omega, by omega⟩
      · exact fun ⟨_, same, _⟩ => same

theorem keeps_store {number : Int} {text : String} {keyword : Keyword} (positive : 1 ≤ number)
    (inside : number ≤ Word.highest) (checked : Form.check text = .ok ())
    (starts : Statement.keyword? text = .ok (some keyword)) : KeepsProper (store number ⟨.known keyword, text⟩) := by
  unfold store
  refine Step.Keeps.bind (Step.keeps_modify fun session proper => ?_) fun _ _ =>
    keeps_note _ _ _
  exact ⟨proper.program.insert positive inside checked starts, proper.vars⟩

theorem keeps_remove (number : Int) : KeepsProper (remove number) := by
  refine Step.keeps_get.bind fun session _ => ?_
  split_ifs with stored
  · refine Step.Keeps.bind (Step.keeps_modify fun session proper => ?_) fun _ _ =>
      keeps_note _ _ _
    exact ⟨proper.program.erase number, proper.vars⟩
  · exact Step.keeps_pure trivial

theorem keeps_edit (text : List Char) : KeepsProper (edit text) := by
  unfold edit
  cases splitNumber text with
  | none => exact Step.keeps_fail _
  | some parts =>
    obtain ⟨digits, body⟩ := parts
    refine (Step.keeps_ofExcept _).bind fun number read => ?_
    obtain ⟨_, _, positive, inside⟩ := lineNumber_eq_ok_iff.1 read
    split_ifs with alone
    · exact keeps_remove number
    · refine (Step.keeps_ofExcept _).bind fun _ checked => (Step.keeps_ofExcept _).bind fun starting starts => ?_
      cases starting with
      | none => exact Step.keeps_fail _
      | some keyword => exact keeps_store positive inside checked starts

theorem keeps_executeAtOnce (text : String) : KeepsProper (executeAtOnce text) := by
  refine (Step.keeps_ofExcept _).bind fun starting _ => ?_
  cases starting with
  | none => exact Step.keeps_fail _
  | some keyword =>
    dsimp only
    split_ifs with immediate
    · exact keeps_execute _
    · exact Step.keeps_fail _

theorem keeps_accept (text : String) : KeepsProper (accept text) := by
  unfold accept
  cases Text.trimmed text.toList with
  | nil => exact Step.keeps_pure trivial
  | cons c rest =>
    dsimp only
    split_ifs with digit
    · exact keeps_edit _
    · exact keeps_executeAtOnce _

/-! ### Running -/

theorem keeps_continueRun (bound : Nat) : KeepsProper (continueRun bound) := by
  induction bound with
  | zero => exact Step.keeps_throw _
  | succ bound ih =>
    refine Step.keeps_get.bind fun session _ => ?_
    cases session.program.cursor with
    | none => exact Step.keeps_pure trivial
    | some number =>
      refine (keeps_onProgram (leaves_fetch number)).bind fun statement _ => ?_
      exact (keeps_execute statement).bind fun _ _ => ih

theorem keeps_run : KeepsProper run := by
  refine Step.keeps_get.bind fun session _ => (keeps_note _ _ _).bind fun _ _ => ?_
  have starting : KeepsProper (editProgram Program.start) := keeps_editProgram fun _ => rfl
  refine starting.bind fun _ _ => ?_
  have going : KeepsProper (do continueRun ((← get).budget + 1)) :=
    Step.keeps_get.bind fun session _ => keeps_continueRun _
  refine (going.ensuring fun session proper => ?_).bind fun _ _ => keeps_note _ _ _
  exact ⟨proper.program.of_lines rfl, proper.vars⟩

theorem leaves_list : Step.Leaves holdings list := by
  refine Step.leaves_get.bind fun session => ?_
  intro seen
  apply Step.keeps_forM
  intro text _
  exact leaves_say text seen

theorem keeps_clear : KeepsProper clear := by
  refine Step.Keeps.bind (Step.keeps_modify fun session _ => ?_) fun _ _ => keeps_note _ _ _
  exact ⟨Program.proper_empty, Variables.wellFormed_empty⟩

end Session

end LineBasic
