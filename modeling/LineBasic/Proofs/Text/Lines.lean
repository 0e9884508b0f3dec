import Mathlib
import LineBasic.Text.Break

/-!
Lines joined and split again. Lines without a break, joined by line feeds, are split into
the same lines (`splitLines_intercalate`). Only an empty last line is lost, since a break at
the end of a text does not start a line. So a text of which it is not known how it ends gets
an empty line at most when a line feed and another text are put after it
(`linesOf_append_line_feed`). Line feeds instead of carriage returns, or of pairs of both,
break a text into the same lines (`splitLines_withLineFeeds`).
-/
namespace LineBasic.Text

/-- No character ends a line. -/
def Unbroken (text : List Char) : Prop := ∀ c ∈ text, isBreak c = false

variable {c : Char} {line rest : List Char}

theorem linesOf_cons (plain : isBreak c = false) (rest : List Char) :
    linesOf isBreak (c :: rest) =
      match linesOf isBreak rest with
      | [] => [[c]]
      | line :: later => (c :: line) :: later := by
  have other : c ≠ '\r' := by
    rintro rfl
    exact absurd plain (by decide)
  cases ends : linesOf isBreak rest <;> simp [linesOf, other, plain, ends]

/-- A break that is no part of a pair ends an empty line. -/
theorem linesOf_break (ends : isBreak c = true) (apart : ∀ later, c = '\r' → rest ≠ '\n' :: later) :
    linesOf isBreak (c :: rest) = [] :: linesOf isBreak rest := by
  rw [linesOf, if_pos ends]
  exact apart

theorem linesOf_ne_nil (c : Char) (rest : List Char) : linesOf isBreak (c :: rest) ≠ [] := by
  by_cases plain : isBreak c = false
  · rw [linesOf_cons plain]
    cases linesOf isBreak rest <;> simp
  · unfold linesOf
    split <;> simp_all

theorem linesOf_line_feed (rest : List Char) : linesOf isBreak ('\n' :: rest) = [] :: linesOf isBreak rest := rfl

/-- What stands before a line feed is a line. -/
theorem linesOf_append (unbroken : Unbroken line) (rest : List Char) :
    linesOf isBreak (line ++ '\n' :: rest) = line :: linesOf isBreak rest := by
  induction line with
  | nil => exact linesOf_line_feed rest
  | cons c line ih =>
    obtain ⟨plain, later⟩ := List.forall_mem_cons.1 unbroken
    rw [List.cons_append, linesOf_cons plain, ih later]

/-- What stands before the end is a line, unless there is nothing. -/
theorem linesOf_unbroken (unbroken : Unbroken line) : linesOf isBreak line = if line = [] then [] else [line] := by
  induction line with
  | nil => rfl
  | cons c line ih =>
    obtain ⟨plain, later⟩ := List.forall_mem_cons.1 unbroken
    rw [linesOf_cons plain, ih later, if_neg (List.cons_ne_nil c line)]
    by_cases nothing : line = []
    · rw [if_pos nothing, nothing]
    · rw [if_neg nothing]

theorem linesOf_intercalate {lines : List (List Char)} (unbroken : ∀ line ∈ lines, Unbroken line) {last : List Char}
    (plain : Unbroken last) :
    linesOf isBreak (['\n'].intercalate (lines ++ [last])) = lines ++ if last = [] then [] else [last] := by
  induction lines with
  | nil =>
    rw [List.nil_append, List.nil_append, List.intercalate_singleton]
    exact linesOf_unbroken plain
  | cons line later ih =>
    obtain ⟨first, others⟩ := List.forall_mem_cons.1 unbroken
    have some : later ++ [last] ≠ [] := List.append_ne_nil_of_right_ne_nil later (List.cons_ne_nil last [])
    obtain ⟨next, rest, split⟩ := List.exists_cons_of_ne_nil some
    rw [List.cons_append, split, List.intercalate_cons_cons, ← split, List.append_assoc, List.singleton_append,
      linesOf_append first, ih others, List.cons_append]

/-- Joined by line feeds and split again, lines without breaks are the same, but for an
    empty last one. -/
theorem splitLines_intercalate {lines : List String} (unbroken : ∀ line ∈ lines, Unbroken line.toList) {last : String}
    (plain : Unbroken last.toList) :
    splitLines ("\n".intercalate (lines ++ [last])) = lines ++ if last = "" then [] else [last] := by
  have joined : ("\n".intercalate (lines ++ [last])).toList =
      ['\n'].intercalate (lines.map String.toList ++ [last.toList]) := by
    rw [String.toList_intercalate, List.map_append]
    rfl
  have whole : ∀ line ∈ lines.map String.toList, Unbroken line := by
    intro line member
    obtain ⟨text, stands, rfl⟩ := List.mem_map.1 member
    exact unbroken text stands
  have back : (lines.map String.toList).map String.ofList = lines := by
    rw [List.map_map]
    exact List.map_id'' (fun line => String.ofList_toList) lines
  rw [splitLines, joined, linesOf_intercalate whole plain, List.map_append, back]
  by_cases nothing : last = ""
  · rw [if_pos nothing, nothing]
    rfl
  · have some : last.toList ≠ [] := by simpa using nothing
    rw [if_neg nothing, if_neg some, List.map_singleton, String.ofList_toList]

/-- A line feed after a text ends its last line, or an empty one where the text has ended
    that already. A carriage return makes one break with it. -/
theorem linesOf_append_line_feed (text after : List Char) :
    linesOf isBreak (text ++ '\n' :: after) = linesOf isBreak text ++ linesOf isBreak after ∨
      linesOf isBreak (text ++ '\n' :: after) = linesOf isBreak text ++ [] :: linesOf isBreak after := by
  induction text using withLineFeeds.induct with
  | case1 => exact .inr rfl
  | case2 rest ih => exact ih.imp (congrArg ([] :: ·)) (congrArg ([] :: ·))
  | case3 c rest apart ih =>
    by_cases ends : isBreak c = true
    · by_cases pair : c = '\r' ∧ rest = []
      · obtain ⟨rfl, rfl⟩ := pair
        exact .inl rfl
      · have still : ∀ later, c = '\r' → rest ++ '\n' :: after ≠ '\n' :: later := by
          intro later isReturn starts
          cases rest with
          | nil => exact pair ⟨isReturn, rfl⟩
          | cons next rest =>
            rw [List.cons_append, List.cons.injEq] at starts
            exact apart rest isReturn (by rw [starts.1])
        rw [List.cons_append, linesOf_break ends still, linesOf_break ends apart]
        exact ih.imp (congrArg ([] :: ·)) (congrArg ([] :: ·))
    · have plain : isBreak c = false := by simpa using ends
      cases rest with
      | nil =>
        left
        have unbroken : Unbroken [c] := by simpa [Unbroken] using plain
        rw [linesOf_append unbroken, linesOf_unbroken unbroken]
        rfl
      | cons next rest =>
        obtain ⟨line, later, split⟩ := List.exists_cons_of_ne_nil (linesOf_ne_nil next rest)
        rw [List.cons_append, linesOf_cons plain, linesOf_cons plain, split]
        rw [split] at ih
        rcases ih with same | same
        · exact .inl (by rw [same]; rfl)
        · exact .inr (by rw [same]; rfl)

theorem linesOf_withLineFeeds (text : List Char) : linesOf isBreak (withLineFeeds text) = linesOf isBreak text := by
  induction text using withLineFeeds.induct with
  | case1 => rfl
  | case2 rest ih => exact congrArg ([] :: ·) ih
  | case3 c rest apart ih =>
    rw [withLineFeeds]
    · by_cases isReturn : c = '\r'
      · rw [if_pos isReturn, linesOf_line_feed, ih, linesOf_break (by rw [isReturn]; decide) apart]
      · rw [if_neg isReturn]
        by_cases ends : isBreak c = true
        · rw [linesOf_break ends apart, linesOf_break ends fun _ same => absurd same isReturn, ih]
        · have plain : isBreak c = false := by simpa using ends
          rw [linesOf_cons plain, linesOf_cons plain, ih]
    · exact apart

theorem splitLines_withLineFeeds (text : String) :
    splitLines (String.ofList (withLineFeeds text.toList)) = splitLines text := by
  rw [splitLines, String.toList_ofList, linesOf_withLineFeeds, splitLines]

end LineBasic.Text
