import Mathlib
import LineBasic.Proofs.Program.Insertion
import LineBasic.Proofs.Program.Search
import LineBasic.Proofs.Step.Keeps

/-!
An indexed program against what was done to it. Whatever is asked of it, and in whatever
order, its index is ascending and lists the numbers that have statements, and its cursor
stands on one of them or nowhere (`Consistent`). It holds the statement that was last put
under each number (`get?_afterCalls`), and shows the same lines and the same cursor as a
program that keeps its lines in one list (`Shows.after`). So it is a map from numbers to
statements, in the order of the numbers, with a cursor (`afterCalls_refines`).
-/
namespace LineBasic

namespace IndexedProgram

variable {program : IndexedProgram} {number : Int} {statement : Statement}

/-- The numbers that have a statement, in the order in which they were first given. -/
def keys (program : IndexedProgram) : List Int := program.statements.map Prod.fst

/-- The two parts and the cursor agree. -/
structure Consistent (program : IndexedProgram) : Prop where
  distinct : program.keys.Nodup
  ascending : program.index.Pairwise (· < ·)
  covers : program.index.Perm program.keys
  stands : ∀ number ∈ program.cursor, number ∈ program.keys

theorem mem_keys_iff : number ∈ program.keys ↔ program.contains number = true := by
  unfold keys contains get?
  rw [List.lookup_isSome_iff]
  simp

theorem Consistent.mem_index_iff (consistent : program.Consistent) :
    number ∈ program.index ↔ program.contains number = true :=
  consistent.covers.mem_iff.trans mem_keys_iff

theorem consistent_empty : Consistent {} :=
  ⟨List.nodup_nil, List.Pairwise.nil, List.Perm.refl _, by simp⟩

/-! ### Putting statements and taking them out -/

theorem lookup_put (number : Int) (statement : Statement) (entries : List (Int × Statement)) (other : Int) :
    (put number statement entries).lookup other = if other = number then some statement else entries.lookup other := by
  induction entries with
  | nil =>
    by_cases same : other = number
    · simp [put, same]
    · simp [put, List.lookup_cons, beq_eq_false_iff_ne.2 same, same]
  | cons entry later ih =>
    obtain ⟨first, old⟩ := entry
    by_cases here : first = number
    · subst here
      by_cases same : other = first
      · simp [put, same]
      · simp [put, List.lookup_cons, beq_eq_false_iff_ne.2 same, same]
    · by_cases same : other = first
      · subst same
        simp [put, here]
      · simp [put, List.lookup_cons, here, beq_eq_false_iff_ne.2 same, ih]

theorem get?_insert (program : IndexedProgram) (number : Int) (statement : Statement) (other : Int) :
    (program.insert number statement).get? other = if other = number then some statement else program.get? other :=
  lookup_put number statement program.statements other

theorem lookup_filter_ne (number : Int) (entries : List (Int × Statement)) (other : Int) :
    (entries.filter fun entry => entry.1 != number).lookup other =
      if other = number then none else entries.lookup other := by
  induction entries with
  | nil => simp
  | cons entry later ih =>
    obtain ⟨first, held⟩ := entry
    by_cases out : first = number
    · subst out
      by_cases same : other = first
      · simpa [same] using ih
      · simpa [List.lookup_cons, beq_eq_false_iff_ne.2 same, same] using ih
    · by_cases same : other = first
      · subst same
        simp [out]
      · simpa [out, List.lookup_cons, beq_eq_false_iff_ne.2 same] using ih

theorem get?_of_not_contains (missing : ¬ program.contains number = true) : program.get? number = none :=
  Option.not_isSome_iff_eq_none.1 missing

theorem get?_erase (program : IndexedProgram) (number other : Int) :
    (program.erase number).get? other = if other = number then none else program.get? other := by
  by_cases stored : program.contains number = true
  · unfold erase
    rw [if_pos stored]
    exact lookup_filter_ne number program.statements other
  · unfold erase
    rw [if_neg stored]
    split_ifs with same
    · rw [same, get?_of_not_contains stored]
    · rfl

/-- A number that has a statement already keeps its place among the others, and a new one
    comes last. -/
theorem keys_insert (program : IndexedProgram) (number : Int) (statement : Statement) :
    (program.insert number statement).keys =
      if number ∈ program.keys then program.keys else program.keys ++ [number] := by
  unfold keys insert
  generalize program.statements = entries
  induction entries with
  | nil => simp [put]
  | cons entry later ih =>
    unfold put
    by_cases here : entry.1 = number
    · simp [here]
    · have other : number ≠ entry.1 := fun same => here same.symm
      simp only [if_neg here, List.map_cons, ih, List.mem_cons, other, false_or]
      split_ifs <;> simp

theorem Consistent.insert (consistent : program.Consistent) (number : Int) (statement : Statement) :
    (program.insert number statement).Consistent := by
  have keys := keys_insert program number statement
  by_cases stored : number ∈ program.keys
  · have index : (program.insert number statement).index = program.index := if_pos (mem_keys_iff.1 stored)
    rw [if_pos stored] at keys
    exact ⟨keys ▸ consistent.distinct, index ▸ consistent.ascending, by rw [keys, index]; exact consistent.covers,
      keys ▸ consistent.stands⟩
  · have index : (program.insert number statement).index = enter number program.index :=
      if_neg fun contained => stored (mem_keys_iff.2 contained)
    rw [if_neg stored] at keys
    have fresh : number ∉ program.index := fun member => stored (consistent.covers.mem_iff.1 member)
    refine ⟨?_, index ▸ ascending_enter consistent.ascending number fresh, ?_, fun other cursor => ?_⟩
    · rw [keys]
      exact List.nodup_append_comm.1 (List.nodup_cons.2 ⟨stored, consistent.distinct⟩)
    · rw [keys, index]
      exact (enter_perm number program.index).trans
        ((consistent.covers.cons number).trans (List.perm_append_singleton number program.keys).symm)
    · rw [keys]
      exact List.mem_append_left _ (consistent.stands other cursor)

theorem erase_of_not_contains (missing : program.contains number = false) : program.erase number = program := by
  unfold erase
  rw [missing]
  rfl

theorem Consistent.erase (consistent : program.Consistent) (number : Int) : (program.erase number).Consistent := by
  by_cases stored : program.contains number = true
  · have keys : (program.erase number).keys = program.keys.filter (· != number) := by
      unfold IndexedProgram.keys IndexedProgram.erase
      rw [if_pos stored, List.filter_map]
      rfl
    have index : (program.erase number).index = program.index.filter (· != number) := by
      unfold IndexedProgram.erase
      rw [if_pos stored]
      exact List.Nodup.erase_eq_filter (consistent.ascending.imp fun less => less.ne) number
    refine ⟨keys ▸ consistent.distinct.filter _, index ▸ consistent.ascending.filter _, ?_, fun other cursor => ?_⟩
    · rw [keys, index]
      exact consistent.covers.filter _
    · unfold IndexedProgram.erase at cursor
      rw [if_pos stored] at cursor
      dsimp only at cursor
      split_ifs at cursor with same
      · cases cursor
      · have apart : other ≠ number := fun equal => same (equal ▸ cursor)
        rw [keys, List.mem_filter]
        exact ⟨consistent.stands other cursor, bne_iff_ne.2 apart⟩
  · rw [erase_of_not_contains (by simpa using stored)]
    exact consistent

/-! ### The cursor -/

/-- The cursor may be put on any number of the index. -/
theorem Consistent.moved (consistent : program.Consistent) {cursor : Option Int}
    (stands : ∀ number ∈ cursor, number ∈ program.index) : Consistent { program with cursor := cursor } :=
  ⟨consistent.distinct, consistent.ascending, consistent.covers,
    fun number member => consistent.covers.mem_iff.1 (stands number member)⟩

theorem Consistent.first?_iff (consistent : program.Consistent) {first : Int} :
    program.first? = some first ↔ IsLeast {other | program.contains other = true} first := by
  rw [first?, head?_iff_isLeast consistent.ascending]
  simp only [consistent.mem_index_iff]

theorem Consistent.above?_iff (consistent : program.Consistent) {next : Int} :
    program.above? number = some next ↔ IsLeast {other | program.contains other = true ∧ number < other} next := by
  rw [above?, getElem?_placeFor_iff consistent.ascending]
  simp only [consistent.mem_index_iff]

/-- There is no first number only where there is none at all. -/
theorem Consistent.first?_eq_none_iff (consistent : program.Consistent) :
    program.first? = none ↔ ∀ other, program.contains other = false := by
  rw [first?, List.head?_eq_none_iff, List.eq_nil_iff_forall_not_mem]
  simp only [consistent.mem_index_iff, Bool.not_eq_true]

/-- There is no next number only where no number is above. -/
theorem Consistent.above?_eq_none_iff (consistent : program.Consistent) :
    program.above? number = none ↔ ∀ other, program.contains other = true → other ≤ number := by
  rw [above?, ← List.head?_drop, List.head?_eq_none_iff, List.eq_nil_iff_forall_not_mem]
  simp only [mem_drop_placeFor_iff consistent.ascending, consistent.mem_index_iff, not_and, not_lt]

theorem Consistent.start (consistent : program.Consistent) : program.start.Consistent :=
  consistent.moved fun _ first => consistent.mem_index_iff.2 (consistent.first?_iff.1 first).1

theorem Consistent.advance (consistent : program.Consistent) : program.advance.Consistent := by
  refine consistent.moved fun next moved => ?_
  obtain ⟨number, _, above⟩ := Option.bind_eq_some_iff.1 moved
  exact consistent.mem_index_iff.2 (consistent.above?_iff.1 above).1.1

theorem Consistent.halt (consistent : program.Consistent) : program.halt.Consistent := consistent.moved (by simp)

/-- A jump to a number without a statement changes nothing. -/
theorem jump_of_not_contains (missing : program.contains number = false) :
    jump number program = .error (.fault .noSuchLine) program := by
  simp only [jump, missing, Bool.false_eq_true, ↓reduceIte]

end IndexedProgram

namespace Program

variable {program : Program} {number : Int}

theorem get?_erase (program : Program) (number other : Int) :
    (program.erase number).get? other = if other = number then none else program.get? other := by
  by_cases stored : program.contains number = true
  · unfold erase
    rw [if_pos stored]
    exact IndexedProgram.lookup_filter_ne number program.lines other
  · unfold erase
    rw [if_neg stored]
    split_ifs with same
    · rw [same]
      exact Option.not_isSome_iff_eq_none.1 stored
    · rfl

theorem Ordered.numbers (ordered : Ordered program.lines) : program.numbers.Pairwise (· < ·) :=
  List.pairwise_map.2 ordered

theorem Ordered.above?_iff (ordered : Ordered program.lines) {next : Int} :
    program.above? number = some next ↔ IsLeast {other | program.contains other = true ∧ number < other} next := by
  rw [above?, ← List.head?_filter, IndexedProgram.head?_iff_isLeast (ordered.numbers.filter _)]
  simp only [List.mem_filter, decide_eq_true_eq, mem_numbers_iff]

end Program

/-- What is asked of a program between the statements that are executed. -/
inductive Program.Call where
  | insert (number : Int) (statement : Statement)
  | erase (number : Int)
  | jump (number : Int)
  | start
  | advance
  | halt
  | clear

/-- Does what is asked. -/
def Program.Call.onIndexed : Program.Call → Step IndexedProgram Unit
  | .insert number statement => modify fun program => program.insert number statement
  | .erase number => modify fun program => program.erase number
  | .jump number => IndexedProgram.jump number
  | .start => modify IndexedProgram.start
  | .advance => modify IndexedProgram.advance
  | .halt => modify IndexedProgram.halt
  | .clear => modify fun _ => {}

/-- Does what is asked, with the lines in one list. -/
def Program.Call.onLines : Program.Call → Step Program Unit
  | .insert number statement => modify fun program => program.insert number statement
  | .erase number => modify fun program => program.erase number
  | .jump number => Program.jump number
  | .start => modify Program.start
  | .advance => modify Program.advance
  | .halt => modify Program.halt
  | .clear => modify fun _ => {}

/-- The statement that was last put under a number and has not been taken out or cleared
    since. The last call comes first. -/
def Program.Call.held (number : Int) : List Program.Call → Option Statement
  | [] => none
  | .insert other statement :: earlier => if number = other then some statement else held number earlier
  | .erase other :: earlier => if number = other then none else held number earlier
  | .clear :: _ => none
  | .jump _ :: earlier | .start :: earlier | .advance :: earlier | .halt :: earlier => held number earlier

/-- The program after calls. One that fails does not keep the others from being made. -/
def IndexedProgram.afterCalls (calls : List Program.Call) : IndexedProgram :=
  calls.foldl (fun program call => call.onIndexed.reached program) {}

def Program.afterCalls (calls : List Program.Call) : Program :=
  calls.foldl (fun program call => call.onLines.reached program) {}

namespace IndexedProgram

/-! ### The same lines in one list -/

/-- The indexed program and the program hold the same statements, each in its own way, and
    have the cursor on the same line. -/
structure Shows (indexed : IndexedProgram) (program : Program) : Prop where
  consistent : indexed.Consistent
  ordered : Program.Ordered program.lines
  held : ∀ number, indexed.get? number = program.get? number
  cursor : indexed.cursor = program.cursor

section
variable {indexed : IndexedProgram} {program : Program} (shows : Shows indexed program)
include shows

theorem Shows.contains_eq (number : Int) : indexed.contains number = program.contains number := by
  rw [contains, Program.contains, shows.held]

theorem Shows.index_eq : indexed.index = program.numbers := by
  refine shows.consistent.ascending.eq_of_mem_iff shows.ordered.numbers fun number => ?_
  rw [shows.consistent.mem_index_iff, Program.mem_numbers_iff, shows.contains_eq]

theorem Shows.lines?_eq : indexed.lines? = some program.lines := by
  have found : ∀ line ∈ program.lines, indexed.get? line.1 = some line.2 := by
    intro line member
    rw [shows.held]
    exact Program.get?_of_mem shows.ordered member
  unfold lines?
  rw [shows.index_eq, Program.numbers, List.mapM_map]
  generalize program.lines = lines at found
  induction lines with
  | nil => rfl
  | cons line later ih =>
    obtain ⟨first, others⟩ := List.forall_mem_cons.1 found
    simp [List.mapM_cons, first, ih others]

theorem Shows.first?_eq : indexed.first? = program.first? := by
  rw [first?, Program.first?, shows.index_eq]

theorem Shows.above?_eq (number : Int) : indexed.above? number = program.above? number := by
  refine Option.ext fun next => ?_
  rw [shows.consistent.above?_iff, shows.ordered.above?_iff]
  simp only [shows.contains_eq]

theorem Shows.erase (number : Int) : Shows (indexed.erase number) (program.erase number) := by
  by_cases stored : program.contains number = true
  · have stored' : indexed.contains number = true := (shows.contains_eq number).trans stored
    refine ⟨shows.consistent.erase number, ?_, fun other => ?_, ?_⟩
    · unfold Program.erase
      rw [if_pos stored]
      exact shows.ordered.filter _
    · rw [get?_erase, Program.get?_erase, shows.held]
    · unfold IndexedProgram.erase Program.erase
      rw [if_pos stored, if_pos stored']
      dsimp only
      rw [shows.cursor]
  · have missing : ¬ indexed.contains number = true := by rwa [shows.contains_eq]
    rw [IndexedProgram.erase, Program.erase, if_neg missing, if_neg stored]
    exact shows

theorem Shows.jump (number : Int) :
    Shows ((IndexedProgram.jump number).reached indexed) ((Program.jump number).reached program) := by
  by_cases stored : program.contains number = true
  · have stored' : indexed.contains number = true := (shows.contains_eq number).trans stored
    rw [Step.reached_eq_of_ok (if_pos stored' : IndexedProgram.jump number indexed = _),
      Step.reached_eq_of_ok (if_pos stored : Program.jump number program = _)]
    refine ⟨shows.consistent.moved fun other cursor => ?_, shows.ordered, shows.held, rfl⟩
    rw [← Option.some.inj cursor]
    exact shows.consistent.mem_index_iff.2 stored'
  · have missing : ¬ indexed.contains number = true := by rwa [shows.contains_eq]
    rw [Step.reached_eq_of_error (if_neg missing : IndexedProgram.jump number indexed = _),
      Step.reached_eq_of_error (if_neg stored : Program.jump number program = _)]
    exact shows

/-- Both do the same when they are asked the same. -/
theorem Shows.call (call : Program.Call) : Shows (call.onIndexed.reached indexed) (call.onLines.reached program) := by
  cases call with
  | insert number statement =>
    refine ⟨shows.consistent.insert number statement, shows.ordered.place number statement, fun other => ?_,
      shows.cursor⟩
    have inserted := Program.get?_insert program number statement other
    rw [← shows.held] at inserted
    exact (get?_insert indexed number statement other).trans inserted.symm
  | erase number => exact shows.erase number
  | jump number => exact shows.jump number
  | start => exact ⟨shows.consistent.start, shows.ordered, shows.held, shows.first?_eq⟩
  | advance =>
    refine ⟨shows.consistent.advance, shows.ordered, shows.held, ?_⟩
    have next : indexed.above? = program.above? := funext shows.above?_eq
    exact congrArg₂ Option.bind shows.cursor next
  | halt => exact ⟨shows.consistent.halt, shows.ordered, shows.held, rfl⟩
  | clear => exact ⟨consistent_empty, List.Pairwise.nil, fun _ => rfl, rfl⟩

end

theorem shows_empty : Shows {} {} := ⟨consistent_empty, List.Pairwise.nil, fun _ => rfl, rfl⟩

theorem Shows.calls {indexed : IndexedProgram} {program : Program} (shows : Shows indexed program)
    (calls : List Program.Call) :
    Shows (calls.foldl (fun indexed call => call.onIndexed.reached indexed) indexed)
      (calls.foldl (fun program call => call.onLines.reached program) program) := by
  induction calls generalizing indexed program with
  | nil => exact shows
  | cons call later ih => exact ih (shows.call call)

theorem shows_afterCalls (calls : List Program.Call) : Shows (afterCalls calls) (Program.afterCalls calls) :=
  shows_empty.calls calls

/-! ### The last calls -/

/-- One more call leaves the statements of the others, unless it is about their number. -/
theorem get?_call (program : IndexedProgram) (call : Program.Call) (calls : List Program.Call) (number : Int)
    (before : program.get? number = Program.Call.held number calls) :
    (call.onIndexed.reached program).get? number = Program.Call.held number (call :: calls) := by
  cases call with
  | insert other statement => exact (get?_insert program other statement number).trans (by rw [before]; rfl)
  | erase other => exact (get?_erase program other number).trans (by rw [before]; rfl)
  | jump other =>
    have same : ((jump other).reached program).get? number = program.get? number := by
      unfold Step.reached Step.outcome jump
      split_ifs <;> rfl
    exact same.trans before
  | start | advance | halt => exact before
  | clear => rfl

theorem get?_afterCalls (calls : List Program.Call) (number : Int) :
    (afterCalls calls).get? number = Program.Call.held number calls.reverse := by
  induction calls using List.reverseRecOn with
  | nil => rfl
  | append_singleton calls call ih =>
    unfold afterCalls at ih ⊢
    rw [List.foldl_concat, List.reverse_concat]
    exact get?_call _ call calls.reverse number ih

/-- After any calls the index is ascending and lists exactly the numbers that have
    statements; the lines are the statements that were last put, in the order of their
    numbers, as in a program that keeps its lines in one list; the cursor is nowhere or on
    a line; the first line and the next one after any number are the least there are; and
    what asks for a line that is not there changes nothing. -/
theorem afterCalls_refines (calls : List Program.Call) :
    let program := afterCalls calls
    let held := fun number => Program.Call.held number calls.reverse
    (program.index.Pairwise (· < ·) ∧ program.index.Perm (program.statements.map Prod.fst)) ∧
    (∃ lines, program.lines? = some lines ∧ lines.Pairwise (fun line later => line.1 < later.1) ∧
      (∀ number statement, (number, statement) ∈ lines ↔ held number = some statement) ∧
      Program.afterCalls calls = ⟨lines, program.cursor⟩) ∧
    (∀ number ∈ program.cursor, program.contains number = true) ∧
    ((∀ first, program.first? = some first ↔ IsLeast {other | program.contains other = true} first) ∧
      (program.first? = none ↔ ∀ other, program.contains other = false)) ∧
    (∀ number,
      (∀ next, program.above? number = some next ↔
        IsLeast {other | program.contains other = true ∧ number < other} next) ∧
      (program.above? number = none ↔ ∀ other, program.contains other = true → other ≤ number)) ∧
    ∀ number, program.contains number = (held number).isSome ∧
      (∀ statement, held number = some statement → fetch number program = .ok statement program) ∧
      (held number = none → fetch number program = .error (.fault .noSuchLine) program ∧
        jump number program = .error (.fault .noSuchLine) program ∧ program.erase number = program) := by
  intro program held
  have shows : Shows program (Program.afterCalls calls) := shows_afterCalls calls
  have latest : ∀ number, program.get? number = held number := get?_afterCalls calls
  refine ⟨⟨shows.consistent.ascending, shows.consistent.covers⟩, ⟨(Program.afterCalls calls).lines, shows.lines?_eq,
    shows.ordered, fun number statement => ?_, by rw [shows.cursor]⟩, fun number cursor => ?_,
    ⟨fun first => shows.consistent.first?_iff, shows.consistent.first?_eq_none_iff⟩, fun number =>
    ⟨fun next => shows.consistent.above?_iff, shows.consistent.above?_eq_none_iff⟩, fun number =>
    ⟨congrArg Option.isSome (latest number), fun statement stored => ?_, fun missing => ?_⟩⟩
  · rw [← latest, shows.held]
    exact ⟨Program.get?_of_mem shows.ordered, Program.mem_of_get?⟩
  · exact mem_keys_iff.1 (shows.consistent.stands number cursor)
  · unfold fetch
    rw [latest, stored]
  · have absent : program.contains number = false := by rw [contains, latest, missing]; rfl
    refine ⟨?_, jump_of_not_contains absent, erase_of_not_contains absent⟩
    unfold fetch
    rw [latest, missing]

end IndexedProgram

end LineBasic
