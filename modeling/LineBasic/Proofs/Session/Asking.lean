import Mathlib
import LineBasic.Proofs.Number.Reply
import LineBasic.Proofs.Session.Moves
import LineBasic.Proofs.Session.Perform
import LineBasic.Proofs.Statement.Sentence

/-!
How a statement asks for a value. It goes through the replies in their order. Each
that is refused is told so, and the question is asked again; the first that is not
concludes the question (`askInteger_of_concludes`), as does the want of one. A checked
`INPUT` assigns what it was given and goes on to the next line. Where it was given
nothing the variables and the program are as before (`execute_input_of_check`).
-/
namespace LineBasic

/-- A reply that is answered by a message and asked for again. -/
def Decimal.Refused (reply : String) : Prop := (∀ n, ¬ Answers reply n) ∧ ∀ count, ¬ Overlong reply count

namespace Session

/-- What a refused reply leaves on the console: the prompt in front of it, and the
    message after it. -/
def refusal : List Entry := [.prompt inputPrompt, .line Fault.invalidNumber.message]

/-- The console after a question that some replies were refused to, with the prompt
    for one more, and the replies that are left. -/
def questioned (console : Console) (refused : List String) (later : List Reply) : Console where
  replies := later
  written := (console.transcript ++ refused.flatMap (fun _ => refusal) ++ [Entry.prompt inputPrompt]).reverse

/-- How a question ends, by what the user does once no more replies are refused. -/
inductive Concludes : List Reply → Except Stop Int → List Reply → Prop
  | answered {reply : String} {n : Int} {later : List Reply} (answers : Decimal.Answers reply n)
      (short : ∀ count, ¬ Decimal.Overlong reply count) : Concludes (.line reply :: later) (.ok n) later
  | overlong {reply : String} {count : Nat} {later : List Reply} (long : Decimal.Overlong reply count) :
      Concludes (.line reply :: later) (.error (.tooManyDigits count)) later
  | interrupted {later : List Reply} : Concludes (.interruption :: later) (.error .interrupted) later
  | silent : Concludes [] (.error .endOfInput) []

/-- Every list of replies starts with some that are refused, and then concludes the
    question. -/
theorem exists_concludes (replies : List Reply) :
    ∃ (refused : List String) (rest : List Reply) (answer : Except Stop Int) (later : List Reply),
      replies = refused.map Reply.line ++ rest ∧ (∀ reply ∈ refused, Decimal.Refused reply) ∧
        Concludes rest answer later := by
  induction replies with
  | nil => exact ⟨[], [], _, _, rfl, by simp, .silent⟩
  | cons first others ih =>
    cases first with
    | interruption => exact ⟨[], _, _, _, rfl, by simp, .interrupted⟩
    | line reply =>
      rcases Decimal.readReply_cases reply with ⟨n, _, answers, short⟩ | ⟨count, _, long⟩ | ⟨_, refused⟩
      · exact ⟨[], _, _, _, rfl, by simp, .answered answers short⟩
      · exact ⟨[], _, _, _, rfl, by simp, .overlong long⟩
      · obtain ⟨refusals, rest, answer, later, rfl, all, concludes⟩ := ih
        exact ⟨reply :: refusals, rest, answer, later, rfl, List.forall_mem_cons.2 ⟨refused, all⟩, concludes⟩

theorem Concludes.not_refused {reply : String} {others later : List Reply} {answer : Except Stop Int}
    (concludes : Concludes (.line reply :: others) answer later) : ¬ Decimal.Refused reply := by
  cases concludes with
  | answered answers short => exact fun refused => refused.1 _ answers
  | overlong long => exact fun refused => refused.2 _ long

theorem Concludes.unique {rest later later' : List Reply} {answer answer' : Except Stop Int}
    (concludes : Concludes rest answer later) (concludes' : Concludes rest answer' later') :
    answer = answer' ∧ later = later' := by
  cases concludes with
  | answered answers short =>
    have read := answers.readReply_eq short
    cases concludes' with
    | answered answers' short' => exact ⟨read.symm.trans (answers'.readReply_eq short'), rfl⟩
    | overlong long => exact absurd long (short _)
  | overlong long =>
    cases concludes' with
    | answered answers short => exact absurd long (short _)
    | overlong long' => exact ⟨long.readReply_eq.symm.trans long'.readReply_eq, rfl⟩
  | interrupted =>
    cases concludes'
    exact ⟨rfl, rfl⟩
  | silent =>
    cases concludes'
    exact ⟨rfl, rfl⟩

/-- The replies that are refused, and what concludes the question, are determined. -/
theorem concludes_unique {refused refused' : List String} {rest rest' later later' : List Reply}
    {answer answer' : Except Stop Int} (same : refused.map Reply.line ++ rest = refused'.map Reply.line ++ rest')
    (all : ∀ reply ∈ refused, Decimal.Refused reply) (all' : ∀ reply ∈ refused', Decimal.Refused reply)
    (concludes : Concludes rest answer later) (concludes' : Concludes rest' answer' later') :
    refused = refused' ∧ answer = answer' ∧ later = later' := by
  induction refused generalizing refused' with
  | nil =>
    cases refused' with
    | nil =>
      obtain rfl : rest = rest' := same
      exact ⟨rfl, concludes.unique concludes'⟩
    | cons reply others =>
      obtain rfl : rest = .line reply :: (others.map Reply.line ++ rest') := same
      exact absurd (all' reply List.mem_cons_self) concludes.not_refused
  | cons reply others ih =>
    cases refused' with
    | nil =>
      obtain rfl : .line reply :: (others.map Reply.line ++ rest) = rest' := same
      exact absurd (all reply List.mem_cons_self) concludes'.not_refused
    | cons reply' others' =>
      obtain ⟨first, later⟩ := List.cons.inj same
      obtain rfl := Reply.line.inj first
      obtain ⟨rfl, ended⟩ := ih later (List.forall_mem_cons.1 all).2 (List.forall_mem_cons.1 all').2
      exact ⟨rfl, ended⟩

variable {session : Session} {bound : Nat} {rest later : List Reply} {answer : Except Stop Int}

/-! ### Asking -/

/-- A refused reply is noted, told so, and asked for again. -/
theorem askInteger_of_refused {reply : String} (replies : session.console.replies = .line reply :: later)
    (refused : Decimal.Refused reply) :
    askInteger (bound + 1) session =
      askInteger bound { session with
        console := ⟨later, refusal.reverse ++ session.console.written⟩
        noted := ⟨.debug, .statements, "Rejected INPUT value " ++ Text.quoted reply⟩ :: session.noted } := by
  have read := Decimal.readReply_eq_invalidNumber_iff.2 refused
  simp only [askInteger, Step.bind_apply, ask_apply, replies, read]
  rfl

/-- The first thing that is no refused reply ends the question. -/
theorem askInteger_of_concluded (replies : session.console.replies = rest) (concludes : Concludes rest answer later) :
    askInteger (bound + 1) session =
      Step.ofExcept answer { session with console := questioned session.console [] later } := by
  have asked : questioned session.console [] later = ⟨later, .prompt inputPrompt :: session.console.written⟩ := by
    simp [questioned, Console.transcript]
  rw [asked]
  cases concludes with
  | answered answers short =>
    have read := answers.readReply_eq short
    simp only [askInteger, Step.bind_apply, ask_apply, replies, read, Console.record, Step.pure_apply,
      Step.ofExcept_ok]
  | overlong long =>
    have read := long.readReply_eq
    simp only [askInteger, Step.bind_apply, ask_apply, replies, read, Console.record, Step.throw_apply,
      Step.ofExcept_error]
  | interrupted =>
    simp only [askInteger, Step.bind_apply, ask_apply, replies, Console.record, Step.ofExcept_error]
  | silent =>
    simp only [askInteger, Step.bind_apply, ask_apply, replies, Console.record, Step.ofExcept_error]

/-- A question goes through the replies that are refused to the one that concludes it. -/
theorem askInteger_of_concludes {refused : List String} (all : ∀ reply ∈ refused, Decimal.Refused reply)
    (concludes : Concludes rest answer later) (enough : refused.length < bound)
    (replies : session.console.replies = refused.map Reply.line ++ rest) :
    ∃ noted, askInteger bound session =
      Step.ofExcept answer { session with console := questioned session.console refused later, noted := noted } := by
  induction refused generalizing session bound with
  | nil =>
    obtain ⟨bound, rfl⟩ := Nat.exists_eq_succ_of_ne_zero (Nat.ne_zero_of_lt enough)
    exact ⟨session.noted, askInteger_of_concluded replies concludes⟩
  | cons reply refused ih =>
    obtain ⟨bound, rfl⟩ := Nat.exists_eq_succ_of_ne_zero (Nat.ne_zero_of_lt enough)
    obtain ⟨first, all⟩ := List.forall_mem_cons.1 all
    rw [Nat.succ_eq_add_one, askInteger_of_refused replies first]
    -- The message of this refusal stands before what the question leaves from here on.
    let told : Session := { session with
      console := ⟨refused.map Reply.line ++ rest, refusal.reverse ++ session.console.written⟩
      noted := ⟨.debug, .statements, "Rejected INPUT value " ++ Text.quoted reply⟩ :: session.noted }
    have left : told.console.replies = refused.map Reply.line ++ rest := rfl
    obtain ⟨noted, ended⟩ := ih all (Nat.lt_of_succ_lt_succ enough) left
    have shown : questioned told.console refused later = questioned session.console (reply :: refused) later := by
      simp [told, questioned, Console.transcript]
    rw [shown] at ended
    exact ⟨noted, ended⟩

/-! ### Executing -/

/-- How a statement that asks for the value of a variable ends: with the answer assigned
    and the cursor on the next line, or with the session as the question left it. -/
def given (name : String) (asked : Session) : Except Stop Int → EStateM.Result Stop Session Unit
  | .ok n => .ok () { asked with program := asked.program.advance, vars := asked.vars.set name n }
  | .error stop => .error stop asked

variable {text name : String} {left : Nat}

/-- The operand of a checked `INPUT` is a variable. -/
theorem after_onlyVariable_of_check (checked : Form.check text = .ok ())
    (shown : tokenize text = .ok [⟨.word, "INPUT"⟩, ⟨.word, name⟩]) :
    Operands.after Operands.onlyVariable text = .ok name := by
  rw [tokenize_eq, Except.ok.injEq] at shown
  have starts : Statement.keyword? text = .ok (some .input) := by
    rw [Statement.keyword?_eq, shown, List.head?_cons, Option.bind_some]
    exact congrArg _ (Token.keyword?_eq_some_iff.2 ⟨rfl, rfl⟩)
  have listed : Operands.operandTokens text = [⟨.word, name⟩] := by rw [Operands.operandTokens, shown, List.tail_cons]
  have follows := (Form.check_iff_follows starts).1 checked
  rw [listed] at follows
  cases follows with
  | input identifies =>
    exact (Operands.after_onlyVariable_iff text name).2 ⟨_, listed, Token.isVariable_iff.2 ⟨name, rfl, identifies⟩, rfl⟩

theorem execute_input_of_concludes (checked : Form.check text = .ok ())
    (shown : tokenize text = .ok [⟨.word, "INPUT"⟩, ⟨.word, name⟩]) (budget : session.budget = left + 1)
    {refused : List String} (all : ∀ reply ∈ refused, Decimal.Refused reply) (concludes : Concludes rest answer later)
    (replies : session.console.replies = refused.map Reply.line ++ rest) :
    ∃ noted, execute ⟨.known .input, text⟩ session =
      given name { session with
        console := questioned session.console refused later
        noted := noted
        budget := left } answer := by
  obtain ⟨started, handed⟩ := execute_known .input text budget
  have enough : refused.length < session.console.replies.length + 1 := by
    rw [replies, List.length_append, List.length_map]
    omega
  let begun : Session := { session with budget := left, noted := started }
  have waiting : begun.console.replies = refused.map Reply.line ++ rest := replies
  obtain ⟨noted, asked⟩ := askInteger_of_concludes all concludes enough waiting
  refine ⟨noted, ?_⟩
  rw [handed, perform, after_onlyVariable_of_check checked shown]
  change (askInteger (session.console.replies.length + 1) >>= _ : Action Unit) _ = _
  rw [Step.bind_apply, asked]
  cases answer with
  | ok n => rfl
  | error stop => rfl

/-- A checked `INPUT` asks again for each reply that is refused. The first that is not
    becomes the value of the variable, with the later ones unread, and the cursor is put
    on the next line. Where there is no such reply, or one with too many digits before
    it, the variables and the program stay as they were. -/
theorem execute_input_of_check (checked : Form.check text = .ok ())
    (shown : tokenize text = .ok [⟨.word, "INPUT"⟩, ⟨.word, name⟩]) (budget : session.budget = left + 1) :
    ∃ (refused : List String) (rest : List Reply) (answer : Except Stop Int) (later : List Reply),
      session.console.replies = refused.map Reply.line ++ rest ∧ (∀ reply ∈ refused, Decimal.Refused reply) ∧
        Concludes rest answer later ∧
        ∃ noted, execute ⟨.known .input, text⟩ session =
          given name { session with
            console := questioned session.console refused later
            noted := noted
            budget := left } answer := by
  obtain ⟨refused, rest, answer, later, replies, all, concludes⟩ := exists_concludes session.console.replies
  exact ⟨refused, rest, answer, later, replies, all, concludes,
    execute_input_of_concludes checked shown budget all concludes replies⟩

theorem tokenize_input : tokenize "INPUT x" = .ok [⟨.word, "INPUT"⟩, ⟨.word, "x"⟩] := by decide +kernel

theorem check_input : Form.check "INPUT x" = .ok () := by decide +kernel

/-- After `1e3`, which is refused, ` -7 ` is the value, and `8` is not read. -/
theorem execute_input_of_check_again :
    ∃ after, execute ⟨.known .input, "INPUT x"⟩
        { console := { replies := [.line "1e3", .line " -7 ", .line "8"] }, budget := 1 } = .ok () after ∧
      after.vars.get? "x" = some (-7) ∧ after.console.replies = [.line "8"] ∧
      after.console.transcript =
        [.prompt inputPrompt, .line Fault.invalidNumber.message, .prompt inputPrompt] := by
  have budget : ({ console := { replies := [.line "1e3", .line " -7 ", .line "8"] }, budget := 1 } : Session).budget =
    0 + 1 := rfl
  obtain ⟨refused, rest, answer, later, replies, all, concludes, noted, ended⟩ :=
    execute_input_of_check check_input tokenize_input budget
  have first : Decimal.Refused "1e3" := Decimal.readReply_eq_invalidNumber_iff.1 (by decide +kernel)
  have second := Decimal.readReply_eq_ok_iff.1 (show Decimal.readReply " -7 " = .ok (-7) by decide +kernel)
  have split : ["1e3"].map Reply.line ++ [.line " -7 ", .line "8"] = refused.map Reply.line ++ rest := replies
  obtain ⟨rfl, rfl, rfl⟩ := concludes_unique split (by simpa using first) all (.answered second.1 second.2) concludes
  rw [ended]
  refine ⟨_, rfl, ?_, rfl, ?_⟩
  · rw [Variables.get?_set, if_pos rfl]
  · simp [questioned, Console.transcript, refusal]

/-- A reply of more digits than are converted ends the statement, though it is no
    failure of the console, and the replies after it are not asked for. -/
theorem execute_input_overlong :
    ∃ reply noted, execute ⟨.known .input, "INPUT x"⟩
        { console := { replies := [.line reply, .line "5"] }, budget := 1 } =
      .error (.tooManyDigits 4301)
        { console := { replies := [.line "5"], written := [.prompt inputPrompt] }, noted := noted, budget := 0 } := by
  have overlong : Decimal.Overlong (String.ofList (List.replicate 4301 '1')) 4301 :=
    Decimal.overlong_replicate (by decide)
  have none : ∀ reply ∈ ([] : List String), Decimal.Refused reply := by simp
  refine ⟨String.ofList (List.replicate 4301 '1'), ?_⟩
  exact execute_input_of_concludes check_input tokenize_input rfl none (.overlong overlong) rfl

end Session

end LineBasic
