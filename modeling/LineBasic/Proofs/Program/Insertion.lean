import Mathlib
import LineBasic.Proofs.Program.Order

/-!
What one more line changes for those who look for lines. Its number holds its statement,
and the others hold theirs (`get?_insert`). The way through the lines is the same, but for
a stop at the new one: a search that comes to the new line would have come to the line
after it (`above?_insert_cases`, `first?_insert_cases`).
-/
namespace LineBasic.Program

variable {program : Program} {number : Int} {statement : Statement}

theorem lookup_place (number : Int) (statement : Statement) (lines : List (Int × Statement)) (other : Int) :
    (place number statement lines).lookup other = if other = number then some statement else lines.lookup other := by
  induction lines with
  | nil =>
    by_cases same : other = number
    · simp [place, same]
    · simp [place, List.lookup_cons, beq_eq_false_iff_ne.2 same, same]
  | cons line later ih =>
    obtain ⟨first, held⟩ := line
    by_cases same : other = number
    · subst same
      rw [if_pos rfl] at ih ⊢
      by_cases here : other = first
      · simp [place, here]
      · by_cases before : other < first
        · simp [place, before]
        · simp [place, before, here, List.lookup_cons, beq_eq_false_iff_ne.2 here, ih]
    · rw [if_neg same] at ih ⊢
      by_cases here : number = first
      · subst here
        simp [place, List.lookup_cons, beq_eq_false_iff_ne.2 same]
      · by_cases before : number < first
        · simp [place, before, List.lookup_cons, beq_eq_false_iff_ne.2 same]
        · simp [place, before, here, List.lookup_cons, ih]

theorem get?_insert (program : Program) (number : Int) (statement : Statement) (other : Int) :
    (program.insert number statement).get? other = if other = number then some statement else program.get? other :=
  lookup_place number statement program.lines other

theorem contains_insert {other : Int} (apart : other ≠ number) :
    (program.insert number statement).contains other = program.contains other := by
  rw [contains, get?_insert, if_neg apart, contains]

/-- A number that is not in the program is that of no line. -/
theorem ne_of_contains_eq_false (fresh : program.contains number = false) :
    ∀ line ∈ program.lines, line.1 ≠ number := by
  rintro line member rfl
  have stored : program.contains line.1 = true := List.lookup_isSome_iff.2 ⟨line, member, by simp⟩
  rw [fresh] at stored
  cases stored

/-- After the new line comes what came after its number. -/
theorem above?_insert_self (fresh : program.contains number = false) :
    (program.insert number statement).above? number = program.above? number := by
  have apart := ne_of_contains_eq_false fresh
  unfold above? numbers insert
  generalize program.lines = lines at apart
  induction lines with
  | nil => simp [place]
  | cons line later ih =>
    obtain ⟨other, others⟩ := List.forall_mem_cons.1 apart
    unfold place
    split_ifs with before here
    · rw [List.map_cons, List.find?_cons_of_neg (by simp)]
    · exact absurd here.symm other
    · have below : ¬ number < line.1 := before
      rw [List.map_cons, List.map_cons, List.find?_cons_of_neg (by simpa using below),
        List.find?_cons_of_neg (by simpa using below), ih others]

/-- The line after a number is the same as before, or it is the new one and has been put in
    front of what was there. -/
theorem above?_insert_cases (ordered : Ordered program.lines) (fresh : program.contains number = false) (other : Int) :
    (program.insert number statement).above? other = program.above? other ∨
      (program.insert number statement).above? other = some number ∧ program.above? other = program.above? number := by
  have apart := ne_of_contains_eq_false fresh
  unfold above? numbers insert
  generalize program.lines = lines at apart ordered
  induction lines with
  | nil =>
    by_cases below : other < number
    · exact .inr ⟨by simp [place, below], rfl⟩
    · exact .inl (by simp [place, below])
  | cons line later ih =>
    obtain ⟨differs, others⟩ := List.forall_mem_cons.1 apart
    obtain ⟨least, rest⟩ := List.pairwise_cons.1 ordered
    unfold place
    split_ifs with before here
    · by_cases below : other < number
      · have through : other < line.1 := below.trans before
        refine .inr ⟨List.find?_cons_of_pos (by simpa using below), ?_⟩
        rw [List.map_cons, List.find?_cons_of_pos (by simpa using through),
          List.find?_cons_of_pos (by simpa using before)]
      · exact .inl (List.find?_cons_of_neg (by simpa using below))
    · exact absurd here.symm differs
    · rw [List.map_cons, List.map_cons]
      by_cases below : other < line.1
      · refine .inl ?_
        rw [List.find?_cons_of_pos (by simpa using below), List.find?_cons_of_pos (by simpa using below)]
      · rw [List.find?_cons_of_neg (by simpa using below), List.find?_cons_of_neg (by simpa using below),
          List.find?_cons_of_neg (by simpa using before)]
        exact ih others rest

/-- The first line is the same as before, or it is the new one and has been put in front of
    what was there. -/
theorem first?_insert_cases (program : Program) (number : Int) (statement : Statement)
    (fresh : program.contains number = false) :
    (program.insert number statement).first? = program.first? ∨
      (program.insert number statement).first? = some number ∧ program.first? = program.above? number := by
  have apart := ne_of_contains_eq_false fresh
  unfold first? above? numbers insert
  cases listed : program.lines with
  | nil => exact .inr ⟨rfl, rfl⟩
  | cons line later =>
    have differs := apart line (listed ▸ List.mem_cons_self)
    unfold place
    split_ifs with before here
    · exact .inr ⟨rfl, by rw [List.map_cons, List.find?_cons_of_pos (by simpa using before)]; rfl⟩
    · exact absurd here.symm differs
    · exact .inl rfl

end LineBasic.Program
