import Mathlib
import LineBasic.CommandLine.Load
import LineBasic.Proofs.Session.Alongside
import LineBasic.Proofs.Session.Escapes
import LineBasic.Proofs.Text.Lines

/-!
Typing lines and loading them. A conversation takes its lines one by one from the user, and
a program text gives them all at once; apart from the greeting and from the end of the
conversation, the same is done with the same lines (`matched_converse`). So a program text
and its lines typed at the shell have the same effect, as long as no `INPUT` takes a line for
itself (`typed_like_loaded`).
-/
namespace LineBasic.Session

/-! ### One turn -/

/-- The session after a line was asked for, and some replies are left. -/
def prompted (session : Session) (later : List Reply) : Session :=
  { session with console := { session.console.record (.prompt "") with replies := later } }

theorem turn_of_none {session : Session} (silent : session.console.replies = []) (verbose : Bool) :
    Shell.turn verbose session =
      .ok none { session.prompted [] with console := (session.prompted []).console.record (.line "") } := by
  have same : session.prompted [] = { session with console := session.console.record (.prompt "") } := by
    unfold prompted
    rw [← silent]
    rfl
  have asked : ask "" session = .error .endOfInput (session.prompted []) := by
    rw [same, ask_apply, silent]
  unfold Shell.turn
  rw [Step.bind_apply, asked]
  rfl

/-- A line that was asked for is processed. What breaks off an `INPUT` ends the
    conversation. -/
theorem turn_of_line {session : Session} {line : String} {later : List Reply}
    (typed : session.console.replies = .line line :: later) (plain : Shell.isSwitch line = false) (verbose : Bool) :
    Shell.turn verbose session =
      match Shell.process verbose line (session.prompted later) with
      | .ok onward reached => .ok (if onward then some verbose else none) reached
      | .error .endOfInput reached | .error .interrupted reached => (do say ""; return none : Action _) reached
      | .error stop reached => .error stop reached := by
  have asked : ask "" session = .ok line (session.prompted later) := by
    rw [ask_apply, typed, prompted]
  have answers : Shell.answer verbose line = (do
      if ← Shell.process verbose line then return some verbose else return none : Action _) := by
    unfold Shell.answer
    simp only [plain, Bool.false_eq_true, ↓reduceIte]
  unfold Shell.turn
  rw [Step.bind_apply, asked]
  dsimp only
  rw [answers, Step.bind_apply]
  cases Shell.process verbose line (session.prompted later) with
  | ok onward reached => cases onward <;> rfl
  | error stop reached => cases stop <;> rfl

theorem keeps_asked_process (verbose : Bool) (line : String) :
    Step.Keeps Asked (fun _ => True) (Shell.process verbose line) := by
  have stays : Stays [] (Shell.process verbose line) := stays_process verbose line
  exact stays.keeps

/-- The empty line at the end of a conversation asks for nothing and takes nothing back. -/
theorem keeps_asked_farewell : Step.Keeps Asked (fun _ => True) (do say ""; return (none : Option Bool)) :=
  (keeps_asked_say "").bind fun _ _ => Step.keeps_pure trivial

theorem keeps_asked_turn (verbose : Bool) : Step.Keeps Asked (fun _ => True) (Shell.turn verbose) := by
  have answers : Step.Keeps Asked (fun _ => True) (do Shell.answer verbose (← ask "")) := by
    refine (keeps_asked_ask "").bind fun line _ => ?_
    unfold Shell.answer
    by_cases switch : Shell.isSwitch line = true
    · rw [if_pos switch]
      exact (keeps_asked_say _).bind fun _ _ => Step.keeps_pure trivial
    · rw [if_neg switch]
      refine (keeps_asked_process verbose line).bind fun onward _ => ?_
      cases onward with
      | true => exact Step.keeps_pure trivial
      | false => exact Step.keeps_pure trivial
  intro session asked
  have after := answers session asked
  unfold Shell.turn
  cases done : (do Shell.answer verbose (← ask "") : Action (Option Bool)) session with
  | ok onward reached =>
    rw [done] at after
    exact after
  | error stop reached =>
    rw [done] at after
    cases stop with
    | endOfInput => exact keeps_asked_farewell reached after
    | interrupted => exact keeps_asked_farewell reached after
    | _ => exact after

theorem keeps_asked_converse (bound : Nat) (verbose : Bool) :
    Step.Keeps Asked (fun _ => True) (Shell.converse bound verbose) := by
  induction bound generalizing verbose with
  | zero => exact Step.keeps_pure trivial
  | succ bound ih =>
    refine (keeps_asked_turn verbose).bind fun onward _ => ?_
    cases onward with
    | none => exact Step.keeps_pure trivial
    | some verbose => exact ih verbose

/-- What breaks off the reading of a line in a statement has asked for a value. -/
theorem asked_of_escapes {executed : String → Prop} {after : Session} {stop : Stop}
    (escapes : Escapes executed after stop) (broken : stop = .endOfInput ∨ stop = .interrupted) : after.Asked := by
  have asks : ∀ {console : Console}, Console.ask inputPrompt console = .error stop after.console → after.Asked := by
    intro console asked
    show Entry.prompt inputPrompt ∈ after.console.transcript
    rcases ask_cases inputPrompt console with ⟨_, _, done, _⟩ | ⟨_, _, done, written⟩
    · rw [asked] at done
      cases done
    · rw [asked] at done
      cases done
      rw [written]
      exact List.mem_append_right _ List.mem_cons_self
  cases escapes with
  | endOfInput asked => exact asks asked
  | interrupted asked => exact asks asked
  | exhausted | tooManyDigits | tooDeep | unwritten => rcases broken with other | other <;> cases other

/-- A line that asks for a value does so in its turn. -/
theorem asked_turn {session : Session} {line : String} {later : List Reply}
    (typed : session.console.replies = .line line :: later) (plain : Shell.isSwitch line = false) {verbose : Bool}
    (asked : Asked ((Shell.process verbose line).reached (session.prompted later))) :
    Asked ((Shell.turn verbose).reached session) := by
  have turn := turn_of_line typed plain verbose
  cases done : Shell.process verbose line (session.prompted later) with
  | ok onward reached =>
    rw [done] at turn
    rw [Step.reached_eq_of_ok turn, ← Step.reached_eq_of_ok done]
    exact asked
  | error stop reached =>
    rw [Step.reached_eq_of_error done] at asked
    rw [done] at turn
    cases stop with
    | endOfInput => exact Step.reached_eq_of_ok turn ▸ keeps_asked_farewell.reached asked
    | interrupted => exact Step.reached_eq_of_ok turn ▸ keeps_asked_farewell.reached asked
    | _ => exact Step.reached_eq_of_error turn ▸ asked

/-! ### All lines -/

/-- The ends of a conversation and of the loading of its lines: both came to the last line,
    whereupon the conversation ended with an empty line, or to `QUIT`, or failed alike. -/
inductive Matched : EStateM.Result Stop Session Unit → EStateM.Result Stop Session Bool → Prop
  | finished {one other : Session} (same : Alongside [] one other) :
      Matched (.ok () { one with console := one.console.record (.line "") }) (.ok true other)
  | quit {one other : Session} {queue : List Reply} (same : Alongside queue one other) :
      Matched (.ok () one) (.ok false other)
  | failed {one other : Session} {queue : List Reply} {stop : Stop} (same : Alongside queue one other) :
      Matched (.error stop one) (.error stop other)

theorem Alongside.prompted {queue later : List Reply} {one other : Session} (same : Alongside queue one other) :
    Alongside later (one.prompted later) other := by
  refine ⟨same.program, same.vars, same.budget, rfl, same.unasked, ?_⟩
  exact (Console.lines_record_prompt one.console "").trans same.lines

/-- Line by line, a conversation comes as far as the loading. -/
theorem matched_converse {lines : List String} {verbose : Bool} {bound : Nat} (enough : lines.length < bound)
    (plain : ∀ line ∈ lines, Shell.isSwitch line = false) {one other : Session}
    (same : Alongside (lines.map .line) one other) (unasked : ¬ Asked ((Shell.converse bound verbose).reached one)) :
    Matched (Shell.converse bound verbose one) (CommandLine.processAll verbose lines other) := by
  induction lines generalizing bound one other with
  | nil =>
    obtain ⟨bound, rfl⟩ := Nat.exists_eq_succ_of_ne_zero (Nat.ne_zero_of_lt enough)
    unfold Shell.converse
    rw [Step.bind_apply, turn_of_none same.queue]
    exact .finished same.prompted
  | cons line later ih =>
    obtain ⟨bound, rfl⟩ := Nat.exists_eq_succ_of_ne_zero (Nat.ne_zero_of_lt enough)
    obtain ⟨plainFirst, plainLater⟩ := List.forall_mem_cons.1 plain
    have turn := turn_of_line same.queue plainFirst verbose
    have fine : ¬ Asked ((Shell.process verbose line).reached (one.prompted (later.map .line))) := by
      intro asked
      refine unasked (Step.reached_bind_of_keeps (fun onward => ?_) (asked_turn same.queue plainFirst asked))
      cases onward with
      | none => exact Step.keeps_pure trivial
      | some verbose => exact keeps_asked_converse bound verbose
    unfold Shell.converse at unasked ⊢
    rw [CommandLine.processAll, Step.bind_apply, Step.bind_apply, turn]
    rcases (stays_process verbose line).agree ⟨same.prompted, fine⟩ with
      ⟨onward, one', other', ended, ended', kept⟩ | ⟨stop, one', other', ended, ended', kept⟩
    · rw [ended] at turn
      rw [ended, ended']
      cases onward with
      | true =>
        rw [Step.reached_bind_of_ok turn] at unasked
        exact ih (by simpa using enough) plainLater kept unasked
      | false => exact .quit kept
    · -- Only an `INPUT` could have ended the conversation here, and none asks for a value.
      rw [Step.reached_eq_of_error ended] at fine
      rw [ended, ended']
      cases stop with
      | endOfInput => exact absurd (asked_of_escapes (escapes_of_process ended) (.inl rfl)) fine
      | interrupted => exact absurd (asked_of_escapes (escapes_of_process ended) (.inr rfl)) fine
      | _ => exact .failed kept

/-! ### Loading -/

theorem processAll_concat_empty (verbose : Bool) (lines : List String) :
    CommandLine.processAll verbose (lines ++ [""]) = CommandLine.processAll verbose lines := by
  induction lines with
  | nil => rfl
  | cons line later ih => rw [List.cons_append, CommandLine.processAll, ih, CommandLine.processAll]

/-- Lines that are joined and split again are processed as they are. -/
theorem processAll_joined {lines : List String} (unbroken : ∀ line ∈ lines, Text.Unbroken line.toList)
    (verbose : Bool) :
    CommandLine.processAll verbose (Text.splitLines ("\n".intercalate lines)) =
      CommandLine.processAll verbose lines := by
  rcases List.eq_nil_or_concat' lines with rfl | ⟨first, last, rfl⟩
  · rfl
  · obtain ⟨others, only⟩ := List.forall_mem_append.1 unbroken
    rw [Text.splitLines_intercalate others (only last List.mem_cons_self)]
    by_cases nothing : last = ""
    · rw [if_pos nothing, List.append_nil, nothing, processAll_concat_empty]
    · rw [if_neg nothing]

/-- Lines are all processed if and only if none of them is `QUIT`. -/
theorem processAll_true_iff {verbose : Bool} {lines : List String} {session after : Session} {onward : Bool}
    (done : CommandLine.processAll verbose lines session = .ok onward after) :
    onward = true ↔ ∀ line ∈ lines, Text.trim line ≠ Command.quit.word := by
  induction lines generalizing session with
  | nil =>
    cases done
    simp
  | cons line later ih =>
    obtain ⟨more, middle, processed, rest⟩ := Step.bind_ok_cases done
    have quits := process_false_iff verbose line session
    rw [List.forall_mem_cons]
    cases more with
    | true =>
      have goes : Text.trim line ≠ Command.quit.word := by
        rw [Ne, ← quits]
        rintro ⟨_, ended⟩
        rw [processed] at ended
        cases ended
      rw [ih rest]
      exact ⟨fun others => ⟨goes, others⟩, fun all => all.2⟩
    | false =>
      have ends := quits.1 ⟨middle, processed⟩
      cases rest
      constructor
      · intro impossible
        cases impossible
      · intro all
        exact absurd ends all.1

/-- The note of how many lines there are is all that comes before the first line. -/
theorem loadSource_inline (text : String) (verbose : Bool) (contents : Except FileFault ByteArray) (session : Session) :
    ∃ noted, CommandLine.loadSource text true false verbose contents session =
      match CommandLine.processAll verbose (Text.splitLines text) { session with noted := noted } with
      | .ok _ after => .ok () after
      | .error stop after => .error stop after := by
  let loading : LogEntry :=
    ⟨.info, .commandLine, "Loading " ++ Decimal.write (Text.splitLines text).length ++ " lines"⟩
  refine ⟨loading :: session.noted, ?_⟩
  unfold CommandLine.loadSource CommandLine.programText CommandLine.load
  simp only [↓reduceIte, Step.bind_apply, Step.ofExcept_ok, note, Step.modify_apply]
  cases CommandLine.processAll verbose (Text.splitLines text) { session with noted := loading :: session.noted } with
  | ok onward after => cases onward <;> rfl
  | error stop after => rfl

/-- A new session before a user who is going to give the replies. -/
def before (replies : List Reply) (budget : Nat) : Session := { console := { replies := replies }, budget := budget }

/-- A new session that has greeted the user. -/
def greeted (replies : List Reply) (budget : Nat) : Session :=
  { before replies budget with console := (before replies budget).console.record (.line banner) }

theorem interact_before (verbose : Bool) (replies : List Reply) (budget : Nat) :
    Shell.interact verbose (before replies budget) =
      Shell.converse (replies.length + 1) verbose (greeted replies budget) := by
  unfold Shell.interact
  rw [Step.bind_apply]
  rfl

theorem alongside_greeted (queue replies : List Reply) (budget : Nat) (noted : List LogEntry) :
    Alongside queue (greeted queue budget) { before replies budget with noted := noted } := by
  refine ⟨rfl, rfl, rfl, rfl, fun entry written => ?_, rfl⟩
  cases written

/-- A conversation in a new session and the loading of the same lines into another. -/
theorem matched_interact {lines : List String} {verbose : Bool} {budget : Nat}
    (plain : ∀ line ∈ lines, Shell.isSwitch line = false)
    (unasked : ¬ Asked ((Shell.interact verbose).reached (before (lines.map .line) budget))) (replies : List Reply)
    (noted : List LogEntry) :
    Matched (Shell.interact verbose (before (lines.map .line) budget))
      (CommandLine.processAll verbose lines { before replies budget with noted := noted }) := by
  have starts := interact_before verbose (lines.map .line) budget
  rw [List.length_map] at starts
  have same : (Shell.interact verbose).reached (before (lines.map .line) budget) =
      (Shell.converse (lines.length + 1) verbose).reached (greeted (lines.map .line) budget) := by
    rw [Step.reached, Step.outcome, starts]
    rfl
  rw [same] at unasked
  rw [starts]
  exact matched_converse (Nat.lt_succ_self _) plain (alongside_greeted _ replies budget noted) unasked

/-- Lines that are typed at the shell of a new session and the text of these lines, loaded
    into another: where no statement asks for a value, both end alike and leave the same
    program and variables, and what is written differs by the greeting and by the empty
    line with which a conversation ends that nobody quits. -/
theorem typed_like_loaded {lines : List String} {verbose : Bool} {budget : Nat}
    (unbroken : ∀ line ∈ lines, Text.Unbroken line.toList) (plain : ∀ line ∈ lines, Shell.isSwitch line = false)
    (unasked : ¬ Asked ((Shell.interact verbose).reached (before (lines.map .line) budget))) (replies : List Reply)
    (contents : Except FileFault ByteArray) :
    let typed := (Shell.interact verbose).outcome (before (lines.map .line) budget)
    let loaded := (CommandLine.loadSource ("\n".intercalate lines) true false verbose contents).outcome
      (before replies budget)
    typed.1 = loaded.1 ∧ typed.2.program = loaded.2.program ∧ typed.2.vars = loaded.2.vars ∧
      (∀ entry ∈ loaded.2.console.transcript, ∃ text, entry = .line text) ∧
      typed.2.console.lines = banner :: (loaded.2.console.lines ++
        if typed.1 = .ok () ∧ ∀ line ∈ lines, Text.trim line ≠ Command.quit.word then [""] else []) := by
  obtain ⟨noted, loads⟩ := loadSource_inline ("\n".intercalate lines) verbose contents (before replies budget)
  rw [processAll_joined unbroken verbose] at loads
  have matched := matched_interact plain unasked replies noted
  dsimp only
  unfold Step.outcome
  rw [loads]
  generalize Shell.interact verbose (before (lines.map .line) budget) = typed at matched
  have finished := @processAll_true_iff verbose lines { before replies budget with noted := noted }
  generalize CommandLine.processAll verbose lines { before replies budget with noted := noted } = loaded
    at matched finished
  cases matched with
  | @finished one other same =>
    refine ⟨rfl, same.program, same.vars, same.unasked, ?_⟩
    rw [if_pos ⟨rfl, (finished rfl).1 rfl⟩, Console.lines_record_line, same.lines, List.cons_append]
  | @quit one other queue same =>
    refine ⟨rfl, same.program, same.vars, same.unasked, ?_⟩
    rw [if_neg (fun all => Bool.false_ne_true ((finished rfl).2 all.2)), List.append_nil, same.lines]
  | @failed one other queue stop same =>
    refine ⟨rfl, same.program, same.vars, same.unasked, ?_⟩
    rw [if_neg (fun all => nomatch all.1), List.append_nil, same.lines]

/-- A run that fails, a blank line, a faulty line and a program that is listed: typed, or
    loaded from a text with an empty last line. -/
theorem typed_like_loaded_listed :
    let lines := ["10 PRINT 1/0", "RUN", " ", "PRINT", "LIST", ""]
    let typed := (Shell.interact false).outcome (before (lines.map .line) 9)
    let loaded := (CommandLine.loadSource ("\n".intercalate lines) true false false (.error .missing)).outcome
      (before [.line "7"] 9)
    (∀ line ∈ lines, Text.Unbroken line.toList) ∧ (∀ line ∈ lines, Shell.isSwitch line = false) ∧
      ¬ Asked typed.2 ∧ typed.1 = .ok () ∧ loaded.1 = .ok () ∧
      loaded.2.console.lines = ["DIVIDE BY ZERO", "SYNTAX ERROR", "10 PRINT 1/0"] ∧
      typed.2.console.lines = banner :: (loaded.2.console.lines ++ [""]) := by
  have unbroken : ∀ line ∈ ["10 PRINT 1/0", "RUN", " ", "PRINT", "LIST", ""], Text.Unbroken line.toList := by
    simp [Text.Unbroken, Text.isBreak]
  have plain : ∀ line ∈ ["10 PRINT 1/0", "RUN", " ", "PRINT", "LIST", ""], Shell.isSwitch line = false := by
    decide +kernel
  have unquit : ∀ line ∈ ["10 PRINT 1/0", "RUN", " ", "PRINT", "LIST", ""], Text.trim line ≠ Command.quit.word := by
    decide +kernel
  have runs : ¬ Asked ((Shell.interact false).outcome
        (before (["10 PRINT 1/0", "RUN", " ", "PRINT", "LIST", ""].map .line) 9)).2 ∧
      ((Shell.interact false).outcome
        (before (["10 PRINT 1/0", "RUN", " ", "PRINT", "LIST", ""].map .line) 9)).1 = .ok () ∧
      ((CommandLine.loadSource ("\n".intercalate ["10 PRINT 1/0", "RUN", " ", "PRINT", "LIST", ""]) true false false
        (.error .missing)).outcome (before [.line "7"] 9)).2.console.lines =
          ["DIVIDE BY ZERO", "SYNTAX ERROR", "10 PRINT 1/0"] := by
    unfold Asked Console.Asked
    decide +kernel
  have alike := typed_like_loaded unbroken plain runs.1 [.line "7"] (.error .missing)
  dsimp only at alike ⊢
  generalize (Shell.interact false).outcome _ = typed at runs alike ⊢
  generalize (CommandLine.loadSource _ true false false _).outcome _ = loaded at runs alike ⊢
  obtain ⟨unasked, ended, written⟩ := runs
  obtain ⟨same, _, _, _, greeting⟩ := alike
  rw [if_pos ⟨ended, unquit⟩] at greeting
  exact ⟨unbroken, plain, unasked, ended, same ▸ ended, written, greeting⟩

end LineBasic.Session
