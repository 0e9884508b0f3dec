import Mathlib
import LineBasic.Proofs.Number.Decimal
import LineBasic.Proofs.Program.Order
import LineBasic.Proofs.Statement.Form
import LineBasic.Proofs.Step.Keeps
import LineBasic.Session.Edit

/-!
What typing a line does. A checked text after a number is stored under it
(`accept_numbered`), and a text that needs no number is executed
(`accept_immediate`); either way it becomes the same statement, without the blanks
at its ends. Entering lines in any order gives the program that has them in theirs
(`enter_apply`).
-/
namespace LineBasic

/-- The statement that a text stands for. -/
def Statement.ofLine (text : String) : Statement :=
  match Statement.keyword? text with
  | .ok (some keyword) => ⟨.known keyword, Text.trim text⟩
  | _ => ⟨.unknown "", Text.trim text⟩

namespace Session

/-- Blanks part a number from what follows it. -/
theorem splitNumber_append {digits blanks body : List Char} (number : ∀ c ∈ digits, c.isDigit = true)
    (some : blanks ≠ []) (blank : ∀ c ∈ blanks, Text.isBlank c = true) (first : ∀ c ∈ body.head?, Text.isBlank c = false) :
    splitNumber (digits ++ (blanks ++ body)) = .some (digits, body) := by
  obtain ⟨b, blanks, rfl⟩ := List.exists_cons_of_ne_nil some
  obtain ⟨blankFirst, blankRest⟩ := List.forall_mem_cons.1 blank
  have other : b.isDigit = false := by
    cases digit : b.isDigit with
    | false => rfl
    | true => simp [Text.isBlank_eq_false_of_isAlphanum (c := b) (by simp [Char.isAlphanum, digit])] at blankFirst
  have rest : Text.trimStart (blanks ++ body) = body := by
    rw [Text.trimStart, List.dropWhile_append_of_pos blankRest]
    cases body with
    | nil => rfl
    | cons c body => exact List.dropWhile_cons_of_neg (by simp [first c rfl])
  unfold splitNumber
  rw [List.dropWhile_append_of_pos number, List.takeWhile_append_of_pos number, List.cons_append,
    List.dropWhile_cons_of_neg (by simp [other]), List.takeWhile_cons_of_neg (by simp [other])]
  simp only [blankFirst, ↓reduceIte, rest, List.append_nil]

theorem lineNumber_toDigits {n : Nat} (positive : 1 ≤ n) (inside : (n : Int) ≤ Word.highest) :
    lineNumber (Nat.toDigits 10 n) = .ok n := by
  have size : Word.lowest ≤ -(n : Int) := by
    unfold Word.lowest
    unfold Word.highest at inside
    omega
  unfold lineNumber
  rw [Decimal.convert_toDigits size]
  have nonzero : n ≠ 0 := by omega
  simp only [bind, Except.bind, if_neg nonzero, if_neg (not_lt.2 inside)]

/-- What a checked text starts with shows, and is no digit. -/
theorem trimmed_of_starts {text : String} {keyword : Keyword} (starts : Statement.keyword? text = .ok (some keyword)) :
    ∃ c rest, Text.trimmed text.toList = c :: rest ∧ c.isDigit = false := by
  have listed := Statement.tokens_of_keyword? starts
  rw [← Lexer.tokens_trimmed] at listed
  obtain ⟨rest, shown, _⟩ := Lexer.starts_of_tokens_cons (Text.trimmed_trimmed text.toList) listed
  rw [shown]
  cases keyword <;> exact ⟨_, _, rfl, by decide⟩

/-- After a number a text is parted from it by blanks, and loses the blanks at its end. -/
theorem trimmed_numbered (n : Nat) {text : String} (shown : Text.trimmed text.toList ≠ []) :
    ∃ blanks, blanks ≠ [] ∧ (∀ c ∈ blanks, Text.isBlank c = true) ∧
      Text.trimmed (Decimal.write n ++ " " ++ text).toList = Nat.toDigits 10 n ++ (blanks ++ Text.trimmed text.toList) := by
  obtain ⟨before, after, split, blankBefore, blankAfter⟩ := Text.exists_eq_append_trimmed text.toList
  refine ⟨' ' :: before, by simp, List.forall_mem_cons.2 ⟨by decide, blankBefore⟩, ?_⟩
  have whole : (Decimal.write n ++ " " ++ text).toList =
      [] ++ ((Nat.toDigits 10 n ++ (' ' :: before ++ Text.trimmed text.toList)) ++ after) := by
    have number : (Decimal.write n).toList = Nat.toDigits 10 n := String.toList_ofList
    conv_lhs => rw [String.toList_append, String.toList_append, number, split]
    simp
  rw [whole]
  refine Text.trimmed_append (by simp) blankAfter ?_ ?_
  · obtain ⟨digit, more, written⟩ := List.exists_cons_of_ne_nil (Nat.toDigits_ne_nil (n := n) (b := 10))
    intro d isFirst
    obtain rfl : digit = d := by simpa [written] using isFirst
    have isDigit : digit.isDigit = true := Decimal.isDigit_of_mem_toDigits (by rw [written]; exact List.mem_cons_self)
    exact Text.isBlank_eq_false_of_isAlphanum (by simp [Char.isAlphanum, isDigit])
  · intro d isLast
    refine Text.getLast?_trimmed text.toList d ?_
    rwa [← List.append_assoc, List.getLast?_append_of_ne_nil _ shown] at isLast

/-- A checked text after a number is stored under it. -/
theorem accept_numbered {number : Int} (positive : 1 ≤ number) (inside : number ≤ Word.highest) {text : String}
    (checked : Form.check text = .ok ()) :
    accept (Decimal.write number ++ " " ++ text) = store number (Statement.ofLine text) := by
  obtain ⟨n, rfl⟩ := Int.eq_ofNat_of_zero_le (by omega : 0 ≤ number)
  obtain ⟨first, operands, keyword, listed, word, _⟩ := (Form.check_iff text).1 checked
  have starts : Statement.keyword? text = .ok (some keyword) := by
    rw [Statement.keyword?_eq, listed, List.head?_cons, Option.bind_some, word]
  obtain ⟨c, rest, trimmed, other⟩ := trimmed_of_starts starts
  obtain ⟨blanks, parted, blank, line⟩ := trimmed_numbered n (by rw [trimmed]; exact List.cons_ne_nil c rest)
  rw [trimmed] at line
  have digits : ∀ d ∈ Nat.toDigits 10 n, d.isDigit = true := fun d => Decimal.isDigit_of_mem_toDigits
  obtain ⟨digit, more, written⟩ := List.exists_cons_of_ne_nil (Nat.toDigits_ne_nil (n := n) (b := 10))
  have parts : splitNumber (Nat.toDigits 10 n ++ (blanks ++ c :: rest)) = some (Nat.toDigits 10 n, c :: rest) := by
    refine splitNumber_append digits parted blank ?_
    rw [← trimmed]
    exact Text.head?_trimmed text.toList
  have body : String.ofList (c :: rest) = Text.trim text := by rw [Text.trim, trimmed]
  have isDigit : digit.isDigit = true := digits digit (by rw [written]; exact List.mem_cons_self)
  unfold accept
  rw [line]
  rw [written, List.cons_append] at parts ⊢
  simp only [isDigit, ↓reduceIte, edit, parts]
  rw [← written, lineNumber_toDigits (by omega) inside]
  simp only [Step.ofExcept_ok_bind, List.isEmpty_cons, Bool.false_eq_true, ↓reduceIte, body, Form.check_trim, checked,
    Statement.keyword?_trim, starts, Statement.ofLine]

/-- A text that needs no number is executed. -/
theorem accept_immediate [Stack] [Screen] {text : String} {keyword : Keyword}
    (starts : Statement.keyword? text = .ok (some keyword)) (immediate : keyword.isImmediate = true) :
    accept text = execute (Statement.ofLine text) := by
  obtain ⟨c, rest, trimmed, other⟩ := trimmed_of_starts starts
  have whole : String.ofList (c :: rest) = Text.trim text := by rw [Text.trim, trimmed]
  have same : Statement.keyword? (Text.trim text) = .ok (some keyword) := by rw [Statement.keyword?_trim, starts]
  unfold accept
  simp only [trimmed, other, Bool.false_eq_true, ↓reduceIte, whole, executeAtOnce, same, Step.ofExcept_ok_bind,
    immediate, Statement.ofLine, starts]

/-- A line as the program keeps it. -/
def kept (line : Int × String) : Int × Statement := (line.1, Statement.ofLine line.2)

/-- Enters lines, each with its number. -/
def enter (lines : List (Int × String)) : Action Unit :=
  lines.forM fun line => accept (Decimal.write line.1 ++ " " ++ line.2)

/-- A line that can be stored: its number can be one, and its text passes the check. -/
def Storable (line : Int × String) : Prop := 1 ≤ line.1 ∧ line.1 ≤ Word.highest ∧ Form.check line.2 = .ok ()

/-- Lines that can be stored are put into the program one after another. -/
theorem enter_eq {lines : List (Int × String)} (storable : ∀ line ∈ lines, Storable line) (session : Session) :
    ∃ noted, enter lines session = .ok () { session with
      program := { session.program with
        lines := (lines.map kept).foldl (fun placed line => Program.place line.1 line.2 placed) session.program.lines }
      noted := noted } := by
  induction lines generalizing session with
  | nil => exact ⟨session.noted, rfl⟩
  | cons line later ih =>
    obtain ⟨⟨positive, inside, checked⟩, rest⟩ := List.forall_mem_cons.1 storable
    have first : ∃ noted, accept (Decimal.write line.1 ++ " " ++ line.2) session = .ok () { session with
        program := session.program.insert line.1 (Statement.ofLine line.2), noted := noted } := by
      rw [accept_numbered positive inside checked]
      exact ⟨_, rfl⟩
    obtain ⟨noted, stored⟩ := first
    obtain ⟨noted', entered⟩ := ih rest { session with
      program := session.program.insert line.1 (Statement.ofLine line.2), noted := noted }
    refine ⟨noted', ?_⟩
    change (accept _ >>= fun _ => enter later) session = _
    rw [Step.bind_apply, stored]
    exact entered

/-- Lines entered into an empty program, in whatever order, stand there in theirs. -/
theorem enter_apply {lines order : List (Int × String)} (storable : ∀ line ∈ lines, Storable line)
    (ascending : lines.Pairwise fun line later => line.1 < later.1) (same : order.Perm lines) {session : Session}
    (empty : session.program.lines = []) :
    ∃ noted, enter order session = .ok () { session with
      program := { session.program with lines := lines.map kept }
      noted := noted } := by
  obtain ⟨noted, entered⟩ := enter_eq (fun line member => storable line (same.mem_iff.1 member)) session
  refine ⟨noted, ?_⟩
  have ordered : Program.Ordered (lines.map kept) := List.pairwise_map.2 ascending
  rw [entered, empty, Program.foldl_place_eq ordered (same.map _)]

end Session

end LineBasic
