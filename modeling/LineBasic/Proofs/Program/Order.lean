import Mathlib
import LineBasic.Program

/-!
The order of a program's lines. Putting a line among ordered lines keeps them
ordered (`Ordered.place`), and the order in which lines are put does not matter
(`foldl_place_eq`). In ordered lines, the line after a given one
is the next in the list (`above?_of_split`).
-/
namespace LineBasic.Program

/-- The lines stand in the order of their numbers, and no number stands twice. -/
def Ordered (lines : List (Int × Statement)) : Prop := lines.Pairwise fun line later => line.1 < later.1

variable {lines : List (Int × Statement)} {number : Int} {statement : Statement}

theorem mem_of_mem_place {line : Int × Statement} (member : line ∈ place number statement lines) :
    line = (number, statement) ∨ line ∈ lines := by
  induction lines with
  | nil => exact .inl (List.mem_singleton.1 member)
  | cons first later ih =>
    unfold place at member
    split_ifs at member with before here
    · exact List.mem_cons.1 member
    · exact (List.mem_cons.1 member).imp_right (List.mem_cons_of_mem _)
    · rcases List.mem_cons.1 member with rfl | member
      · exact .inr List.mem_cons_self
      · exact (ih member).imp_right (List.mem_cons_of_mem _)

theorem Ordered.place (ordered : Ordered lines) (number : Int) (statement : Statement) :
    Ordered (place number statement lines) := by
  induction lines with
  | nil => exact List.pairwise_singleton _ _
  | cons first later ih =>
    obtain ⟨least, rest⟩ := List.pairwise_cons.1 ordered
    unfold Program.place
    split_ifs with before here
    · refine List.pairwise_cons.2 ⟨fun line member => ?_, ordered⟩
      rcases List.mem_cons.1 member with rfl | member
      · exact before
      · exact before.trans (least line member)
    · refine List.pairwise_cons.2 ⟨fun line member => ?_, rest⟩
      rw [here]
      exact least line member
    · refine List.pairwise_cons.2 ⟨fun line member => ?_, ih rest⟩
      rcases mem_of_mem_place member with rfl | member
      · show first.1 < number
        omega
      · exact least line member

theorem Ordered.filter (ordered : Ordered lines) (stays : Int × Statement → Bool) : Ordered (lines.filter stays) :=
  List.Pairwise.filter stays ordered

/-- Putting a statement under a number replaces the line of that number, and no other. -/
theorem Ordered.mem_place_iff (ordered : Ordered lines) {line : Int × Statement} :
    line ∈ Program.place number statement lines ↔
      line = (number, statement) ∨ line ∈ lines ∧ line.1 ≠ number := by
  induction lines with
  | nil => simp [Program.place]
  | cons first later ih =>
    obtain ⟨least, rest⟩ := List.pairwise_cons.1 ordered
    have above : ∀ other ∈ later, first.1 < other.1 := least
    unfold Program.place
    split_ifs with before here
    · have others : ∀ other ∈ first :: later, other.1 ≠ number := by
        intro other member
        rcases List.mem_cons.1 member with rfl | member
        · omega
        · have := above other member
          omega
      rw [List.mem_cons]
      exact or_congr_right ⟨fun member => ⟨member, others line member⟩, fun kept => kept.1⟩
    · have others : ∀ other ∈ later, other.1 ≠ number := fun other member => by
        have := above other member
        omega
      rw [List.mem_cons, List.mem_cons]
      refine or_congr_right ⟨fun member => ⟨.inr member, others line member⟩, ?_⟩
      rintro ⟨rfl | member, other⟩
      · exact absurd here.symm other
      · exact member
    · have other : first.1 ≠ number := fun same => here same.symm
      rw [List.mem_cons, List.mem_cons, ih rest]
      constructor
      · rintro (rfl | rfl | ⟨member, apart⟩)
        · exact .inr ⟨.inl rfl, other⟩
        · exact .inl rfl
        · exact .inr ⟨.inr member, apart⟩
      · rintro (rfl | ⟨rfl | member, apart⟩)
        · exact .inr (.inl rfl)
        · exact .inl rfl
        · exact .inr (.inr ⟨member, apart⟩)

/-- Taking out a number takes out its line, and no other. -/
theorem mem_erase_iff {program : Program} {line : Int × Statement} :
    line ∈ (program.erase number).lines ↔ line ∈ program.lines ∧ line.1 ≠ number := by
  unfold erase
  by_cases stored : program.contains number = true
  · rw [if_pos stored, List.mem_filter, bne_iff_ne]
  · rw [if_neg stored]
    refine ⟨fun member => ⟨member, ?_⟩, fun kept => kept.1⟩
    rintro rfl
    refine stored (List.lookup_isSome_iff.2 ⟨line, member, ?_⟩)
    simp

/-- A line of a new number is added to the others. -/
theorem place_perm (fresh : ∀ line ∈ lines, line.1 ≠ number) (statement : Statement) :
    (place number statement lines).Perm ((number, statement) :: lines) := by
  induction lines with
  | nil => exact List.Perm.refl _
  | cons first later ih =>
    have other : number ≠ first.1 := (fresh first List.mem_cons_self).symm
    unfold place
    split_ifs with before
    · exact List.Perm.refl _
    · have added := ih fun line member => fresh line (List.mem_cons_of_mem _ member)
      exact (added.cons first).trans (List.Perm.swap _ _ _)

/-- The same lines can be ordered in one way only. -/
theorem Ordered.eq_of_perm {others : List (Int × Statement)} (ordered : Ordered lines) (ordered' : Ordered others)
    (same : lines.Perm others) : lines = others :=
  List.Perm.eq_of_pairwise (fun _ _ _ _ less more => absurd less more.asymm) ordered ordered' same

/-- Lines of new numbers are all added to the others. -/
theorem foldl_place_perm {added placed : List (Int × Statement)}
    (distinct : added.Pairwise fun line later => line.1 ≠ later.1)
    (fresh : ∀ line ∈ placed, ∀ later ∈ added, line.1 ≠ later.1) :
    (added.foldl (fun lines line => place line.1 line.2 lines) placed).Perm (added ++ placed) := by
  induction added generalizing placed with
  | nil => exact List.Perm.refl _
  | cons line later ih =>
    obtain ⟨other, distinct⟩ := List.pairwise_cons.1 distinct
    have first := place_perm (fun earlier member => fresh earlier member line List.mem_cons_self) line.2
    have others : ∀ earlier ∈ place line.1 line.2 placed, ∀ next ∈ later, earlier.1 ≠ next.1 := by
      intro earlier member next nextMember
      rcases mem_of_mem_place member with rfl | member
      · exact other next nextMember
      · exact fresh earlier member next (List.mem_cons_of_mem _ nextMember)
    exact (ih distinct others).trans ((first.append_left later).trans List.perm_middle)

theorem Ordered.foldl_place {placed : List (Int × Statement)} (ordered : Ordered placed)
    (added : List (Int × Statement)) :
    Ordered (added.foldl (fun lines line => Program.place line.1 line.2 lines) placed) := by
  induction added generalizing placed with
  | nil => exact ordered
  | cons line later ih => exact ih (ordered.place _ _)

/-- Whatever the order in which lines are put, they end up in their own. -/
theorem foldl_place_eq {added : List (Int × Statement)} (ordered : Ordered lines) (same : added.Perm lines) :
    added.foldl (fun placed line => place line.1 line.2 placed) [] = lines := by
  have distinct : added.Pairwise fun line later => line.1 ≠ later.1 :=
    (same.pairwise_iff fun differ => differ.symm).2 (ordered.imp fun less => less.ne)
  have placed := foldl_place_perm distinct (by simp : ∀ line ∈ ([] : List (Int × Statement)), _)
  rw [List.append_nil] at placed
  exact Ordered.eq_of_perm (Ordered.foldl_place List.Pairwise.nil added) ordered (placed.trans same)

/-- The statement under a number stands in the lines with it. -/
theorem mem_of_get? {program : Program} (found : program.get? number = some statement) :
    (number, statement) ∈ program.lines := by
  obtain ⟨before, after, split, _⟩ := List.lookup_eq_some_iff.1 found
  exact split ▸ List.mem_append_right _ List.mem_cons_self

theorem mem_numbers_iff {program : Program} : number ∈ program.numbers ↔ program.contains number = true := by
  unfold numbers contains get?
  rw [List.lookup_isSome_iff]
  simp

theorem get?_of_mem {program : Program} (ordered : Ordered program.lines)
    (member : (number, statement) ∈ program.lines) : program.get? number = some statement := by
  obtain ⟨before, after, split⟩ := List.append_of_mem member
  refine List.lookup_eq_some_iff.2 ⟨before, after, split, fun line earlier => ?_⟩
  rw [split] at ordered
  have less := (List.pairwise_append.1 ordered).2.2 line earlier _ List.mem_cons_self
  simpa using less.ne'

/-- The least number above that of a line is the number of the next line. -/
theorem above?_of_split {program : Program} {line : Int × Statement} {before later : List (Int × Statement)}
    (ordered : Ordered program.lines) (split : program.lines = before ++ line :: later) :
    program.above? line.1 = (later.map Prod.fst).head? := by
  rw [split] at ordered
  obtain ⟨_, after, across⟩ := List.pairwise_append.1 ordered
  have skipped : (before.map Prod.fst).find? (line.1 < ·) = none := by
    refine List.find?_eq_none.2 fun other member => ?_
    obtain ⟨earlier, stands, rfl⟩ := List.mem_map.1 member
    have less := across earlier stands line List.mem_cons_self
    simpa using less.le
  unfold above? numbers
  rw [split, List.map_append, List.find?_append, skipped, Option.none_or, List.map_cons]
  rw [List.find?_cons_of_neg (by simp)]
  cases later with
  | nil => rfl
  | cons next others =>
    have less : line.1 < next.1 := (List.pairwise_cons.1 after).1 next List.mem_cons_self
    exact List.find?_cons_of_pos (by simpa using less)

end LineBasic.Program
