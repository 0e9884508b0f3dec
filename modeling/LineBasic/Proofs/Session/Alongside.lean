import Mathlib
import LineBasic.Proofs.Session.Likeness

/-!
Two sessions side by side, on different consoles: one of them is asked for its lines after a
greeting, and the other gets them all at once. As long as no statement asks for a value, they
do the same with every line (`stays_process`), and what they write differs by the greeting
only (`Alongside`).
-/
namespace LineBasic

/-- The text of a line that was written. -/
def Entry.line? : Entry → Option String
  | .line text => some text
  | .prompt _ => none

/-- The lines that were written, in order. -/
def Console.lines (console : Console) : List String := console.transcript.filterMap Entry.line?

@[simp] theorem Console.lines_record_line (console : Console) (text : String) :
    (console.record (.line text)).lines = console.lines ++ [text] := by
  rw [lines, transcript_record, List.filterMap_append]
  rfl

@[simp] theorem Console.lines_record_prompt (console : Console) (text : String) :
    (console.record (.prompt text)).lines = console.lines := by
  rw [lines, transcript_record, List.filterMap_append]
  exact List.append_nil _

/-- A value has been asked for. -/
def Console.Asked (console : Console) : Prop := Entry.prompt inputPrompt ∈ console.transcript

theorem Console.Asked.of_append {console after : Console} {more : List Entry} (asked : console.Asked)
    (written : after.transcript = console.transcript ++ more) : after.Asked := by
  unfold Asked
  rw [written]
  exact List.mem_append_left _ asked

namespace Session

/-- A statement has asked for a value. -/
def Asked (session : Session) : Prop := session.console.Asked

/-- The sessions differ at most in their consoles and logs. The first has been greeted and
    has some replies before it; the second has only written lines. -/
structure Alongside (queue : List Reply) (one other : Session) : Prop where
  program : one.program = other.program
  vars : one.vars = other.vars
  budget : one.budget = other.budget
  queue : one.console.replies = queue
  unasked : ∀ entry ∈ other.console.transcript, ∃ text, entry = .line text
  lines : one.console.lines = banner :: other.console.lines

/-- Done in both sessions, the action leaves them side by side, unless it asks for a value. -/
abbrev Stays {α : Type} (queue : List Reply) (action : Action α) : Prop :=
  Step.AgreeUnless Asked (Alongside queue) (Alongside queue) (Alongside queue) action action

/-! ### What was asked -/

theorem keeps_asked {α : Type} {action : Action α} (leaves : Step.Leaves Session.console action) :
    Step.Keeps Asked (fun _ => True) action :=
  leaves.keeps Console.Asked

theorem keeps_asked_onConsole {α : Type} {action : Step Console α}
    (keeps : Step.Keeps Console.Asked (fun _ => True) action) :
    Step.Keeps Asked (fun _ => True) (onConsole action) :=
  Step.keeps_onPart keeps (fun _ asked => asked) fun _ _ _ asked => asked

theorem keeps_asked_say (text : String) : Step.Keeps Asked (fun _ => True) (say text) := by
  exact keeps_asked_onConsole fun console asked => ⟨trivial, asked.of_append (Console.transcript_record _ _)⟩

theorem ask_cases (prompt : String) (console : Console) :
    (∃ text after, Console.ask prompt console = .ok text after ∧
      after.transcript = console.transcript ++ [.prompt prompt]) ∨
    ∃ stop after, Console.ask prompt console = .error stop after ∧
      after.transcript = console.transcript ++ [.prompt prompt] := by
  have asked := Console.transcript_record console (.prompt prompt)
  unfold Console.ask
  dsimp only
  cases console.replies with
  | nil => exact .inr ⟨_, _, rfl, asked⟩
  | cons reply later =>
    cases reply with
    | line text => exact .inl ⟨_, _, rfl, asked⟩
    | interruption => exact .inr ⟨_, _, rfl, asked⟩

theorem keeps_asked_ask (prompt : String) : Step.Keeps Asked (fun _ => True) (ask prompt) := by
  refine keeps_asked_onConsole fun console asked => ?_
  rcases ask_cases prompt console with ⟨text, after, done, written⟩ | ⟨stop, after, done, written⟩
  · rw [done]
    exact ⟨trivial, asked.of_append written⟩
  · rw [done]
    exact asked.of_append written

theorem keeps_asked_askInteger (bound : Nat) : Step.Keeps Asked (fun _ => True) (askInteger bound) := by
  induction bound with
  | zero => exact Step.keeps_throw _
  | succ bound ih =>
    refine (keeps_asked_ask _).bind fun reply _ => ?_
    cases Decimal.readReply reply with
    | ok value => exact Step.keeps_pure trivial
    | error stop =>
      cases stop with
      | fault cause =>
        refine (keeps_asked (leaves_console_note _ _ _)).bind fun _ _ => ?_
        exact (keeps_asked_say _).bind fun _ _ => ih
      | _ => exact Step.keeps_throw _

/-- Whoever asks for an integer has asked, whatever the reply. -/
theorem asked_askInteger (bound : Nat) (session : Session) : Asked ((askInteger (bound + 1)).reached session) := by
  have prompted : ∀ {after : Console}, after.transcript = session.console.transcript ++ [.prompt inputPrompt] →
      Asked { session with console := after } := by
    intro after written
    show Entry.prompt inputPrompt ∈ after.transcript
    rw [written]
    exact List.mem_append_right _ List.mem_cons_self
  unfold askInteger
  rcases ask_cases inputPrompt session.console with ⟨reply, after, done, written⟩ | ⟨stop, after, done, written⟩
  · have asked : ask inputPrompt session = .ok reply { session with console := after } := by
      simp only [ask, onConsole, Step.onPart, done]
    rw [Step.reached_bind_of_ok asked]
    cases Decimal.readReply reply with
    | ok value => exact prompted written
    | error stop =>
      cases stop with
      | fault cause =>
        have onward : Step.Keeps Asked (fun _ => True) (do
            note .debug .statements ("Rejected INPUT value " ++ Text.quoted reply)
            say cause.message
            askInteger bound) := by
          refine (keeps_asked (leaves_console_note _ _ _)).bind fun _ _ => ?_
          exact (keeps_asked_say _).bind fun _ _ => keeps_asked_askInteger bound
        exact onward.reached (prompted written)
      | _ => exact prompted written
  · have asked : ask inputPrompt session = .error stop { session with console := after } := by
      simp only [ask, onConsole, Step.onPart, done]
    rw [Step.reached_bind_of_error asked]
    exact prompted written

/-! ### Lines -/

theorem stays_say (queue : List Reply) (text : String) : Stays queue (say text) := by
  refine Step.Agree.unless (fun one other same => .inl ⟨(), _, _, rfl, rfl, ?_⟩) (keeps_asked_say text)
  refine ⟨same.program, same.vars, same.budget, same.queue, ?_, ?_⟩
  · rw [Console.transcript_record]
    refine List.forall_mem_append.2 ⟨same.unasked, ?_⟩
    rw [List.forall_mem_singleton]
    exact ⟨text, rfl⟩
  · rw [Console.lines_record_line, Console.lines_record_line, same.lines, List.cons_append]

theorem likeness_alongside (queue : List Reply) : Likeness Console.Asked (Alongside queue) where
  program := Alongside.program
  vars := Alongside.vars
  budget := Alongside.budget
  changed same _ _ _ _ _ := ⟨rfl, rfl, rfl, same.queue, same.unasked, same.lines⟩
  say := stays_say queue
  asks := by
    refine Step.agreeUnless_of_lost ?_ fun session => asked_askInteger session.console.replies.length session
    exact Step.keeps_get.bind fun session _ => keeps_asked_askInteger _

/-- A line is processed alike in both sessions, unless a value is asked for. -/
theorem stays_process {queue : List Reply} (verbose : Bool) (line : String) :
    Stays queue (Shell.process verbose line) :=
  (likeness_alongside queue).process verbose line

end Session

end LineBasic
