import Mathlib
import LineBasic.IndexedProgram

/-!
Searching an index by halving. In an ascending index the search ends at the place that
parts the numbers above the one sought from the others (`Narrowed.search`). A number that
enters the index there keeps it ascending (`ascending_enter`), and the number that stands
there is the least of those above (`getElem?_placeFor_iff`).
-/
namespace LineBasic.IndexedProgram

variable {index : List Int} {number : Int} {low high : Nat}

/-- What is known of the place that is sought: no number before `low` is above the one
    that is looked for, and every number from `high` on is. -/
structure Narrowed (index : List Int) (number : Int) (low high : Nat) : Prop where
  ordered : low ≤ high
  inside : high ≤ index.length
  below : ∀ i, ∀ within : i < index.length, i < low → index[i] ≤ number
  above : ∀ i, ∀ within : i < index.length, high ≤ i → number < index[i]

/-- The search goes on until the place is known. -/
theorem Narrowed.search (ascending : index.Pairwise (· < ·)) (narrowed : Narrowed index number low high) :
    Narrowed index number (search index number low high) (IndexedProgram.search index number low high) := by
  have upTo : ∀ i j, ∀ within : j < index.length, ∀ upTo : i ≤ j, index[i] ≤ index[j] := by
    intro i j within upTo
    rcases Nat.eq_or_lt_of_le upTo with rfl | less
    · exact le_rfl
    · exact (List.pairwise_iff_getElem.1 ascending i j _ within less).le
  fun_induction IndexedProgram.search index number low high with
  | case1 low high more middle other found less ih =>
    obtain ⟨within, rfl⟩ := List.getElem?_eq_some_iff.1 found
    refine ih ⟨by omega, within.le, narrowed.below, fun i inside beyond => ?_⟩
    exact less.trans_le (upTo middle i inside beyond)
  | case2 low high more middle other found notLess ih =>
    obtain ⟨within, rfl⟩ := List.getElem?_eq_some_iff.1 found
    refine ih ⟨by omega, narrowed.inside, fun i inside before => ?_, narrowed.above⟩
    exact (upTo i middle within (Nat.le_of_lt_succ before)).trans (not_lt.1 notLess)
  | case3 low high more middle missing =>
    have beyond := List.getElem?_eq_none_iff.1 missing
    have := narrowed.inside
    omega
  | case4 low high closed =>
    have same : high = low := le_antisymm (not_lt.1 closed) narrowed.ordered
    exact ⟨le_rfl, same ▸ narrowed.inside, narrowed.below, same ▸ narrowed.above⟩

section
variable (ascending : index.Pairwise (· < ·)) (number : Int)
include ascending

theorem narrowed_placeFor : Narrowed index number (placeFor index number) (placeFor index number) :=
  Narrowed.search ascending
    ⟨Nat.zero_le _, le_rfl, fun _ _ before => absurd before (Nat.not_lt_zero _), fun i inside beyond => by omega⟩

theorem le_of_mem_take {other : Int} (member : other ∈ index.take (placeFor index number)) : other ≤ number := by
  obtain ⟨i, before, rfl⟩ := List.mem_take_iff_getElem.1 member
  exact (narrowed_placeFor ascending number).below i _ (lt_min_iff.1 before).1

theorem lt_of_mem_drop {other : Int} (member : other ∈ index.drop (placeFor index number)) : number < other := by
  obtain ⟨i, within, rfl⟩ := List.mem_drop_iff_getElem.1 member
  exact (narrowed_placeFor ascending number).above _ _ (Nat.le_add_right _ _)

/-- The numbers from the place on are those above the one sought. -/
theorem mem_drop_placeFor_iff {other : Int} :
    other ∈ index.drop (placeFor index number) ↔ other ∈ index ∧ number < other := by
  refine ⟨fun member => ⟨List.mem_of_mem_drop member, lt_of_mem_drop ascending number member⟩, ?_⟩
  rintro ⟨member, above⟩
  rw [← List.take_append_drop (placeFor index number) index] at member
  rcases List.mem_append.1 member with before | after
  · exact absurd (le_of_mem_take ascending number before) (not_le.2 above)
  · exact after

/-- The first number is the least one. -/
theorem head?_iff_isLeast {first : Int} :
    index.head? = some first ↔ IsLeast {other | other ∈ index} first := by
  constructor
  · intro stands
    obtain ⟨later, rfl⟩ := List.head?_eq_some_iff.1 stands
    refine ⟨List.mem_cons_self, fun other member => ?_⟩
    rcases List.mem_cons.1 member with rfl | member
    · exact le_rfl
    · exact ((List.pairwise_cons.1 ascending).1 other member).le
  · rintro ⟨member, least⟩
    cases index with
    | nil => exact absurd member List.not_mem_nil
    | cons other later =>
      rcases List.mem_cons.1 member with rfl | member
      · rfl
      · have above := (List.pairwise_cons.1 ascending).1 first member
        exact absurd (least List.mem_cons_self) (not_le.2 above)

/-- At the place that is found stands the least number above the one sought. -/
theorem getElem?_placeFor_iff {next : Int} :
    index[placeFor index number]? = some next ↔ IsLeast {other | other ∈ index ∧ number < other} next := by
  have rest : (index.drop (placeFor index number)).Pairwise (· < ·) := ascending.sublist (List.drop_sublist _ _)
  rw [← List.head?_drop, head?_iff_isLeast rest]
  simp only [mem_drop_placeFor_iff ascending]

/-- A new number enters the index in its order. -/
theorem ascending_enter (fresh : number ∉ index) : (enter number index).Pairwise (· < ·) := by
  rw [enter, List.pairwise_append, List.pairwise_cons]
  refine ⟨ascending.sublist (List.take_sublist _ _), ⟨fun other after => lt_of_mem_drop ascending number after,
    ascending.sublist (List.drop_sublist _ _)⟩, fun other before later after => ?_⟩
  have below : other < number := by
    refine lt_of_le_of_ne (le_of_mem_take ascending number before) ?_
    rintro rfl
    exact fresh (List.mem_of_mem_take before)
  rcases List.mem_cons.1 after with rfl | after
  · exact below
  · exact below.trans (lt_of_mem_drop ascending number after)

end

/-- The index holds the number that enters and the others. -/
theorem enter_perm (number : Int) (index : List Int) : (enter number index).Perm (number :: index) := by
  unfold enter
  refine List.perm_middle.trans ?_
  rw [List.take_append_drop]

end LineBasic.IndexedProgram
