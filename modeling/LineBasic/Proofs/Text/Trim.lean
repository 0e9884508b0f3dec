import Mathlib
import LineBasic.Text.Blank

/-!
Texts without the blanks at their ends. Trimming takes away blanks only
(`exists_eq_append_trimmed`), all of them (`head?_trimmed`, `getLast?_trimmed`), and
nothing else (`trimmed_append`).
-/
namespace LineBasic.Text

private theorem dropWhile_eq_self {text : List Char} (first : ∀ c ∈ text.head?, isBlank c = false) :
    text.dropWhile isBlank = text := by
  cases text with
  | nil => rfl
  | cons c rest => exact List.dropWhile_cons_of_neg (by simp [first c rfl])

private theorem head?_dropWhile (text : List Char) : ∀ c ∈ (text.dropWhile isBlank).head?, isBlank c = false := by
  intro c first
  have shows := List.head?_dropWhile_not isBlank text
  rw [Option.mem_def.1 first] at shows
  simpa using shows

/-- After the trimmed text there are only blanks. -/
theorem exists_trimStart_eq (text : List Char) :
    ∃ after, trimStart text = trimmed text ++ after ∧ ∀ c ∈ after, isBlank c = true := by
  refine ⟨((trimStart text).reverse.takeWhile isBlank).reverse, ?_, ?_⟩
  · rw [trimmed, trimEnd, ← List.reverse_append, List.takeWhile_append_dropWhile, List.reverse_reverse]
  · intro c member
    exact List.all_eq_true.1 List.all_takeWhile c (List.mem_reverse.1 member)

/-- Around the trimmed text there are only blanks. -/
theorem exists_eq_append_trimmed (text : List Char) :
    ∃ before after, text = before ++ (trimmed text ++ after) ∧ (∀ c ∈ before, isBlank c = true) ∧
      ∀ c ∈ after, isBlank c = true := by
  obtain ⟨after, started, blankAfter⟩ := exists_trimStart_eq text
  refine ⟨text.takeWhile isBlank, after, ?_, List.all_eq_true.1 List.all_takeWhile, blankAfter⟩
  rw [← started, trimStart, List.takeWhile_append_dropWhile]

theorem getLast?_trimmed (text : List Char) : ∀ c ∈ (trimmed text).getLast?, isBlank c = false := by
  intro c last
  rw [trimmed, trimEnd, List.getLast?_reverse] at last
  exact head?_dropWhile _ c last

theorem head?_trimmed (text : List Char) : ∀ c ∈ (trimmed text).head?, isBlank c = false := by
  intro c first
  have rest : trimmed text <+: trimStart text := by
    rw [trimmed, trimEnd, ← List.reverse_suffix, List.reverse_reverse]
    exact List.dropWhile_suffix _
  obtain ⟨after, split⟩ := rest
  refine head?_dropWhile text c ?_
  rw [← trimStart, ← split]
  exact List.mem_head?_append_of_mem_head? first

theorem trimStart_trimmed (text : List Char) : trimStart (trimmed text) = trimmed text :=
  dropWhile_eq_self (head?_trimmed text)

/-- Blanks at the ends do not matter. -/
theorem trimmed_append {before text after : List Char} (blankBefore : ∀ c ∈ before, isBlank c = true)
    (blankAfter : ∀ c ∈ after, isBlank c = true) (first : ∀ c ∈ text.head?, isBlank c = false)
    (last : ∀ c ∈ text.getLast?, isBlank c = false) : trimmed (before ++ (text ++ after)) = text := by
  have started : trimStart (before ++ (text ++ after)) = trimStart (text ++ after) :=
    List.dropWhile_append_of_pos blankBefore
  have ended : trimEnd (text ++ after) = text := by
    have reversed : ∀ c ∈ text.reverse.head?, isBlank c = false := by
      rw [List.head?_reverse]
      exact last
    rw [trimEnd, List.reverse_append, List.dropWhile_append_of_pos (by simpa using blankAfter),
      dropWhile_eq_self reversed, List.reverse_reverse]
  rw [trimmed, started]
  cases text with
  | nil =>
    have nothing : trimStart ([] ++ after) = [] := List.dropWhile_eq_nil_iff.2 (by simpa using blankAfter)
    rw [nothing]
    rfl
  | cons c rest =>
    have kept : trimStart (c :: rest ++ after) = c :: rest ++ after :=
      dropWhile_eq_self (by simpa using first c rfl)
    rw [kept, ended]

theorem trimmed_trimmed (text : List Char) : trimmed (trimmed text) = trimmed text := by
  have whole := @trimmed_append [] (trimmed text) [] (by simp) (by simp) (head?_trimmed text) (getLast?_trimmed text)
  simpa using whole

theorem trim_trim (text : String) : trim (trim text) = trim text := by
  rw [trim, trim, String.toList_ofList, trimmed_trimmed]

end LineBasic.Text
