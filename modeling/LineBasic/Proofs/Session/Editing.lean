import Mathlib
import LineBasic.Proofs.Session.Entering
import LineBasic.Proofs.Session.Proper

/-!
Edits of a program. A text is an edit of a line if it is the number of the line,
alone or with a checked statement after it (`Edits`). Handling a text that starts
with a digit makes the edit that it is, which is one only (`Edits.unique`), and fails
at once where it is none (`edits_or_fails`). So all that accepting a text can come to
is an edit, a failure or a statement executed at once (`accept_cases`).
-/
namespace LineBasic

namespace Session

/-- The digits write a line number, perhaps with zeros in front. -/
structure WritesNumber (digits : List Char) (number : Int) : Prop where
  isDigit : ∀ c ∈ digits, c.isDigit = true
  short : digits.length ≤ digitLimit
  value : (Decimal.value digits : Int) = number
  positive : 1 ≤ number
  inside : number ≤ Word.highest

/-- The text, which has no blanks at its ends, edits the line of a number: alone, the
    number takes the line out, and before a checked text it puts that statement there. -/
inductive Edits : List Char → Int → Option Statement → Prop
  | removal {digits : List Char} {number : Int} (writes : WritesNumber digits number) : Edits digits number none
  | storage {digits blanks body : List Char} {number : Int} {keyword : Keyword} (writes : WritesNumber digits number)
      (parted : blanks ≠ []) (blank : ∀ c ∈ blanks, Text.isBlank c = true)
      (shows : ∀ c ∈ body.head?, Text.isBlank c = false) (checked : Form.check (String.ofList body) = .ok ())
      (starts : Statement.keyword? (String.ofList body) = .ok (some keyword)) :
      Edits (digits ++ (blanks ++ body)) number (some ⟨.known keyword, String.ofList body⟩)

/-- Puts a statement under a number, or takes out what is there. -/
def put (number : Int) : Option Statement → Action Unit
  | none => remove number
  | some statement => store number statement

variable {text digits body : List Char} {number : Int} {change : Option Statement}

/-- What starts with digits is split into them, blanks, and what starts with none. -/
theorem splitNumber_eq_some (split : splitNumber text = some (digits, body)) :
    ∃ blanks, text = digits ++ (blanks ++ body) ∧ (∀ c ∈ digits, c.isDigit = true) ∧
      (∀ c ∈ blanks, Text.isBlank c = true) ∧ (∀ c ∈ body.head?, Text.isBlank c = false) ∧
      (blanks = [] → body = []) := by
  have whole := List.takeWhile_append_dropWhile (p := Char.isDigit) (l := text)
  have digit : ∀ c ∈ text.takeWhile Char.isDigit, c.isDigit = true := List.all_eq_true.1 List.all_takeWhile
  unfold splitNumber at split
  cases rest : text.dropWhile Char.isDigit with
  | nil =>
    rw [rest] at split
    cases split
    exact ⟨[], by simp, List.dropWhile_eq_nil_iff.1 rest, by simp, by simp, by simp⟩
  | cons first later =>
    rw [rest] at split whole
    by_cases blank : Text.isBlank first = true
    · simp only [blank, ↓reduceIte, Option.some.injEq, Prod.mk.injEq] at split
      obtain ⟨rfl, rfl⟩ := split
      refine ⟨first :: later.takeWhile Text.isBlank, ?_, digit, ?_, ?_, by simp⟩
      · rw [List.cons_append, Text.trimStart, List.takeWhile_append_dropWhile, whole]
      · exact List.forall_mem_cons.2 ⟨blank, List.all_eq_true.1 List.all_takeWhile⟩
      · intro c isFirst
        have shows := List.head?_dropWhile_not Text.isBlank later
        rw [← Text.trimStart, Option.mem_def.1 isFirst] at shows
        simpa using shows
    · simp [blank] at split

theorem WritesNumber.lineNumber_eq (writes : WritesNumber digits number) : lineNumber digits = .ok number :=
  lineNumber_eq_ok_iff.2 ⟨writes.short, writes.value, writes.positive, writes.inside⟩

theorem WritesNumber.ne_nil (writes : WritesNumber digits number) : digits ≠ [] := by
  rintro rfl
  have value : (0 : Int) = number := writes.value
  have positive := writes.positive
  omega

theorem Edits.parts (edits : Edits text number change) :
    ∃ digits body, splitNumber text = some (digits, body) ∧ lineNumber digits = .ok number ∧
      (body = [] ∧ change = none ∨
        ∃ keyword, body ≠ [] ∧ Form.check (String.ofList body) = .ok () ∧
          Statement.keyword? (String.ofList body) = .ok (some keyword) ∧
          change = some ⟨.known keyword, String.ofList body⟩) := by
  cases edits with
  | removal writes =>
    have whole : splitNumber text = some (text, []) := by
      unfold splitNumber
      rw [List.dropWhile_eq_nil_iff.2 writes.isDigit]
    exact ⟨text, [], whole, writes.lineNumber_eq, .inl ⟨rfl, rfl⟩⟩
  | @storage digits blanks body _ keyword writes parted blank shows checked starts =>
    have filled : body ≠ [] := by
      rintro rfl
      revert checked
      decide +kernel
    exact ⟨digits, body, splitNumber_append writes.isDigit parted blank shows, writes.lineNumber_eq,
      .inr ⟨keyword, filled, checked, starts, rfl⟩⟩

/-- A text edits one line at most, and in one way. -/
theorem Edits.unique {other : Int} {change' : Option Statement} (edits : Edits text number change)
    (edits' : Edits text other change') : number = other ∧ change = change' := by
  obtain ⟨digits, body, split, read, changes⟩ := edits.parts
  obtain ⟨digits', body', split', read', changes'⟩ := edits'.parts
  rw [split, Option.some.injEq, Prod.mk.injEq] at split'
  obtain ⟨rfl, rfl⟩ := split'
  rw [read, Except.ok.injEq] at read'
  refine ⟨read', ?_⟩
  rcases changes with ⟨rfl, rfl⟩ | ⟨keyword, filled, _, starts, rfl⟩
  · rcases changes' with ⟨_, rfl⟩ | ⟨_, filled, _⟩
    · rfl
    · exact absurd rfl filled
  · rcases changes' with ⟨rfl, _⟩ | ⟨keyword', _, _, starts', rfl⟩
    · exact absurd rfl filled
    · rw [starts, Except.ok.injEq, Option.some.injEq] at starts'
      rw [starts']

theorem Edits.edit_eq (edits : Edits text number change) : edit text = put number change := by
  obtain ⟨digits, body, split, read, changes⟩ := edits.parts
  unfold edit
  rw [split]
  dsimp only
  rw [read, Step.ofExcept_ok_bind]
  rcases changes with ⟨rfl, rfl⟩ | ⟨keyword, filled, checked, starts, rfl⟩
  · rfl
  · have more : ¬ body.isEmpty = true := by simpa using filled
    rw [if_neg more, checked, starts, Step.ofExcept_ok_bind, Step.ofExcept_ok_bind]
    rfl

/-- An edit starts with a digit. -/
theorem Edits.starts (edits : Edits text number change) : ∃ c rest, text = c :: rest ∧ c.isDigit = true := by
  have first : ∀ digits : List Char, WritesNumber digits number → ∃ c rest, digits = c :: rest ∧ c.isDigit = true := by
    intro digits writes
    obtain ⟨c, rest, rfl⟩ := List.exists_cons_of_ne_nil writes.ne_nil
    exact ⟨c, rest, rfl, writes.isDigit c List.mem_cons_self⟩
  cases edits with
  | removal writes => exact first _ writes
  | storage writes =>
    obtain ⟨c, rest, rfl, digit⟩ := first _ writes
    exact ⟨c, _, rfl, digit⟩

/-- A text without blanks at its end is an edit, or cannot be handled as one. -/
theorem edits_or_fails (last : ∀ c ∈ text.getLast?, Text.isBlank c = false) :
    (∃ number change, Edits text number change) ∨ ∃ stop, edit text = throw stop := by
  unfold edit
  cases split : splitNumber text with
  | none => exact .inr ⟨_, rfl⟩
  | some parts =>
    obtain ⟨digits, body⟩ := parts
    obtain ⟨blanks, rfl, isDigit, blank, shows, together⟩ := splitNumber_eq_some split
    dsimp only
    cases read : lineNumber digits with
    | error stop => exact .inr ⟨stop, rfl⟩
    | ok number =>
      obtain ⟨short, value, positive, inside⟩ := lineNumber_eq_ok_iff.1 read
      have writes : WritesNumber digits number := ⟨isDigit, short, value, positive, inside⟩
      by_cases alone : body = []
      · -- The blanks would be at the end of the text.
        have parted : blanks = [] := by
          by_contra some
          obtain ⟨before, c, rfl⟩ := (List.eq_nil_or_concat' blanks).resolve_left some
          have isBlank := blank c (by simp)
          rw [last c (by simp [alone])] at isBlank
          cases isBlank
        subst parted alone
        rw [List.append_nil, List.append_nil]
        exact .inl ⟨number, none, .removal writes⟩
      · have more : ¬ body.isEmpty = true := by simpa using alone
        rw [Step.ofExcept_ok_bind, if_neg more]
        cases checked : Form.check (String.ofList body) with
        | error stop => exact .inr ⟨stop, rfl⟩
        | ok answer =>
          rw [Step.ofExcept_ok_bind]
          cases starts : Statement.keyword? (String.ofList body) with
          | error stop => exact .inr ⟨stop, rfl⟩
          | ok starting =>
            cases starting with
            | none => exact .inr ⟨_, rfl⟩
            | some keyword =>
              have parted : blanks ≠ [] := fun none => alone (together none)
              exact .inl ⟨number, _, .storage writes parted blank shows checked starts⟩

/-- A text is accepted as an edit, as nothing, not at all, or as a statement to be
    executed at once. -/
theorem accept_cases (text : String) :
    (∃ number change, Edits (Text.trimmed text.toList) number change ∧ accept text = put number change) ∨
      accept text = pure () ∨ (∃ stop, accept text = throw stop) ∨ ∃ other, accept text = executeAtOnce other := by
  unfold accept
  cases shown : Text.trimmed text.toList with
  | nil => exact .inr (.inl rfl)
  | cons c rest =>
    dsimp only
    by_cases digit : c.isDigit = true
    · rw [if_pos digit]
      rcases edits_or_fails (shown ▸ Text.getLast?_trimmed text.toList) with ⟨number, change, edits⟩ | failed
      · exact .inl ⟨number, change, edits, edits.edit_eq⟩
      · exact .inr (.inr (.inl failed))
    · rw [if_neg digit]
      exact .inr (.inr (.inr ⟨_, rfl⟩))

/-! ### What an edit changes -/

end Session

/-- The program after an edit. -/
def Program.edited (program : Program) (number : Int) : Option Statement → Program
  | none => program.erase number
  | some statement => program.insert number statement

theorem Program.cursor_edited_eq_none {program : Program} (nowhere : program.cursor = none) (number : Int)
    (change : Option Statement) : (program.edited number change).cursor = none := by
  cases change with
  | some statement => exact nowhere
  | none =>
    unfold Program.edited Program.erase
    by_cases stored : program.contains number = true
    · simp [stored, nowhere]
    · simpa [stored] using nowhere

theorem Program.Ordered.edited {program : Program} (ordered : Ordered program.lines) (number : Int)
    (change : Option Statement) : Ordered (program.edited number change).lines := by
  cases change with
  | some statement => exact ordered.place number statement
  | none =>
    unfold Program.edited Program.erase
    by_cases stored : program.contains number = true
    · simp only [if_pos stored]
      exact ordered.filter _
    · simp only [if_neg stored]
      exact ordered

/-- An edit changes the line of its number, and no other. -/
theorem Program.Ordered.mem_edited_iff {program : Program} (ordered : Ordered program.lines) {number : Int}
    {change : Option Statement} {other : Int} {statement : Statement} :
    (other, statement) ∈ (program.edited number change).lines ↔
      other = number ∧ change = some statement ∨ other ≠ number ∧ (other, statement) ∈ program.lines := by
  cases change with
  | none =>
    rw [Program.edited, mem_erase_iff]
    simp [and_comm]
  | some put =>
    rw [Program.edited, Program.insert, ordered.mem_place_iff, Prod.mk.injEq, Option.some.injEq]
    constructor
    · rintro (⟨rfl, rfl⟩ | ⟨member, apart⟩)
      · exact .inl ⟨rfl, rfl⟩
      · exact .inr ⟨apart, member⟩
    · rintro (⟨rfl, rfl⟩ | ⟨apart, member⟩)
      · exact .inl ⟨rfl, rfl⟩
      · exact .inr ⟨member, apart⟩

/-- An edit never fails, and changes the program only. -/
theorem Session.put_apply (number : Int) (change : Option Statement) (session : Session) :
    ∃ noted, put number change session =
      .ok () { session with program := session.program.edited number change, noted := noted } := by
  cases change with
  | some statement => exact ⟨_, rfl⟩
  | none =>
    by_cases stored : session.program.contains number = true
    · refine ⟨⟨.debug, .program, "Removed line " ++ Decimal.write number⟩ :: session.noted, ?_⟩
      simp only [put, remove, Step.bind_apply, Step.get_apply, stored, ↓reduceIte]
      rfl
    · have same : session.program.erase number = session.program := if_neg stored
      refine ⟨session.noted, ?_⟩
      simp only [put, remove, Step.bind_apply, Step.get_apply, stored, Program.edited, same]
      rfl

end LineBasic
