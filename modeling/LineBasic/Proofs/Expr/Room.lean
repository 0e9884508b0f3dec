import Mathlib
import LineBasic.Expr.Stack
import LineBasic.Proofs.Expr.Scan
import LineBasic.Proofs.Token.Concatenation

/-!
Reading and evaluating where there is little room. With as much room as depth an
expression is read as without a limit (`readInRoom_eq`), and with as many levels as its
height it has the same value (`evalInRoom_eq`), so that a short text overflows no stack
that is not shorter still (`Stack.not_overflows_of_short`). But a chain of assignments takes a
call for each of them, so that there is one for which any room is too little
(`Stack.overflowsReading_of_chain`).
-/
namespace LineBasic

namespace Expr

/-! ### Enough room -/

/-- With as much room as depth, all three readers read as without a limit. -/
structure RoomSuffices (depth : Nat) : Prop where
  within : ∀ room, depth ≤ room → readInRoom depth room = readWithin depth
  joined : ∀ room, depth ≤ room → readJoinedInRoom depth room = readJoined depth
  term : ∀ room, depth ≤ room → readTermInRoom depth room = readTerm depth

theorem roomSuffices (depth : Nat) : RoomSuffices depth := by
  induction depth with
  | zero => exact ⟨fun _ _ => rfl, fun _ _ => rfl, fun _ _ => rfl⟩
  | succ depth ih =>
    refine ⟨fun room enough => ?_, fun room enough => ?_, fun room enough => ?_⟩
    · obtain ⟨room, rfl⟩ : ∃ below, room = below + 1 := ⟨room - 1, by omega⟩
      have enough : depth ≤ room := by omega
      funext threshold
      rw [readInRoom, readWithin, ih.term room enough, ih.joined room enough]
    · have enough : depth ≤ room := by omega
      funext threshold left
      rw [readJoinedInRoom, readJoined, ih.within room enough, ih.joined room enough]
    · have enough : depth ≤ room - 1 := by omega
      rw [readTermInRoom, readTerm, ih.within (room - 1) enough]

/-- How many levels an expression has. -/
def height : Expr → Nat
  | .constant _ | .identifier _ => 1
  | .binary _ left right => max left.height right.height + 1

/-- With room for all its levels, an expression is evaluated as without a limit. -/
theorem evalInRoom_eq (expression : Expr) {room : Nat} (enough : expression.height ≤ room) :
    expression.evalInRoom room = expression.eval := by
  induction expression generalizing room with
  | constant value | identifier name =>
    obtain ⟨room, rfl⟩ : ∃ below, room = below + 1 := ⟨room - 1, by simp only [height] at enough; omega⟩
    rfl
  | binary operator left right first second =>
    simp only [height] at enough
    obtain ⟨room, rfl⟩ : ∃ below, room = below + 1 := ⟨room - 1, by omega⟩
    have one : left.evalInRoom room = left.eval := first (by omega)
    have other : right.evalInRoom room = right.eval := second (by omega)
    cases operator with
    | arithmetic operation => simp only [evalInRoom, eval, one, other]
    | assign =>
      cases left with
      | identifier name => simp only [evalInRoom, eval, other]
      | constant | binary => rfl

/-- An expression has no more levels than tokens. -/
theorem height_le_length {level : Nat} {tokens : List Token} {expression : Expr}
    (derived : Derives level tokens expression) : expression.height ≤ tokens.length := by
  induction derived with
  | identifier | numeral | negative => simp [height]
  | bracketed opens whole closes ih =>
    simp only [List.length_append, List.length_cons, List.length_nil]
    omega
  | ofTerm _ ih | ofProduct _ ih | ofSum _ ih => exact ih
  | product _ _ _ _ first second | sum _ _ _ _ first second | assignment _ _ _ first second =>
    simp only [height, List.length_append, List.length_cons]
    omega

/-! ### Too little room -/

/-- The tokens of `=` after a name, so many times. -/
def assignments (name : String) (count : Nat) : List Token :=
  (List.replicate count [⟨.word, name⟩, ⟨.operator, "="⟩]).flatten

/-- Each assignment in a chain is read by a call from the one before it, so that some
    room for fewer calls runs out. -/
theorem readInRoom_assignments {name : String} (free : name ∉ reserved) {count room : Nat} (little : room ≤ count)
    (depth : Nat) {scanner : Scanner} {later : List Token}
    (before : scanner.IsBefore (assignments name count ++ later)) :
    ∃ reached, readInRoom depth room 0 scanner = .error .tooDeep reached := by
  induction count generalizing room depth scanner with
  | zero =>
    obtain rfl : room = 0 := by omega
    cases depth <;> exact ⟨scanner, rfl⟩
  | succ count ih =>
    rcases depth with _ | _ | depth
    · exact ⟨scanner, rfl⟩
    · cases room <;> exact ⟨scanner, rfl⟩
    rcases room with _ | room
    · exact ⟨scanner, rfl⟩
    have listed : assignments name (count + 1) ++ later =
        ⟨.word, name⟩ :: ⟨.operator, "="⟩ :: (assignments name count ++ later) := rfl
    rw [listed] at before
    obtain ⟨next, taken, standing, _⟩ := Scanner.next_isBefore_cons before
    obtain ⟨last, takenSign, standing, _⟩ := Scanner.next_isBefore_cons standing
    obtain ⟨reached, deeper⟩ := ih (by omega : room ≤ count) depth standing
    have unreserved : reserved.contains name = false := by simpa using free
    have joins : ¬ ((Token.precedence ⟨.operator, "="⟩ : Nat) : Int) ≤ 0 := by decide
    have right : rightThreshold ⟨.operator, "="⟩ = 0 := by decide
    refine ⟨reached, ?_⟩
    simp only [readInRoom, readTermInRoom, termOf, readJoinedInRoom, joinOf, Step.bind_apply, taken, unreserved,
      Bool.false_eq_true, ↓reduceIte, Step.pure_apply, takenSign, joins, right, deeper]

end Expr

namespace Stack

variable {scanner : Scanner} {tokens : List Token}

theorem tokensLeft_eq (before : scanner.IsBefore tokens) : tokensLeft scanner = tokens := by
  obtain ⟨reached, drained⟩ := Scanner.remaining_isBefore before
  rw [tokensLeft, Step.isolated, drained]

/-- Reading fails for the reasons of reading, or for want of room. -/
theorem read_error_cases [Stack] {reached : Scanner} {stop : Stop} (before : scanner.IsBefore tokens)
    (ended : read scanner = .error stop reached) :
    stop.OfReading ∨ stop = .tooDeep ∧ overflowsReading tokens = true := by
  rw [read, tokensLeft_eq before] at ended
  by_cases exceeds : overflowsReading tokens = true
  · rw [if_pos exceeds] at ended
    cases ended
    exact .inr ⟨rfl, exceeds⟩
  · rw [if_neg exceeds] at ended
    exact .inl (Expr.stopsOnly_readAll ended)

/-- What is read is the expression that the tokens are. -/
theorem derives_of_read [Stack] {reached : Scanner} {expression : Expr} (before : scanner.IsBefore tokens)
    (ended : read scanner = .ok expression reached) : Derives 0 tokens expression := by
  unfold read at ended
  split_ifs at ended
  exact (Expr.readAll_iff_derives before expression).1 ⟨reached, ended⟩

/-- Evaluating fails for the reasons of evaluation, or for want of room. -/
theorem evaluate_error_cases [Stack] {expression : Expr} {vars reached : Variables} {stop : Stop}
    (ended : evaluate expression vars = .error stop reached) :
    stop.OfEvaluation ∨ stop = .tooDeep ∧ overflowsEvaluating expression vars = some reached := by
  unfold evaluate at ended
  cases exceeds : overflowsEvaluating expression vars with
  | none =>
    rw [exceeds] at ended
    exact .inl (Expr.stopsOnly_eval expression ended)
  | some last =>
    rw [exceeds] at ended
    cases ended
    exact .inr ⟨rfl, rfl⟩

/-- The room runs out on an expression that stands among the tokens, when it is read or
    when it is evaluated. -/
inductive Overflows [Stack] (tokens : List Token) : Prop
  | reading {operand : List Token} (among : operand <:+: tokens) (exceeds : overflowsReading operand = true)
  | evaluating {operand : List Token} {expression : Expr} {vars reached : Variables} (among : operand <:+: tokens)
      (derives : Derives 0 operand expression) (exceeds : overflowsEvaluating expression vars = some reached)

theorem overflowsReading_ofCalls_iff {calls : Nat} :
    (ofCalls calls).overflowsReading tokens = true ↔
      ∃ reached, Expr.readInRoom (Expr.depthFor (Scanner.ofTokens tokens)) calls 0 (Scanner.ofTokens tokens) =
        .error .tooDeep reached := by
  simp only [overflowsReading]
  split <;> simp_all

theorem overflowsEvaluating_ofCalls_iff {calls : Nat} {expression : Expr} {vars reached : Variables} :
    (ofCalls calls).overflowsEvaluating expression vars = some reached ↔
      expression.evalInRoom (calls / 2) vars = .error .tooDeep reached := by
  simp only [overflowsEvaluating]
  split <;> simp_all

/-- Room for a few calls more than twice the tokens is enough for all that stands among them. -/
theorem not_overflows_of_short {calls : Nat} (short : 2 * tokens.length + 4 ≤ calls) :
    ¬ @Overflows (ofCalls calls) tokens := by
  intro overflows
  cases overflows with
  | @reading operand among exceeds =>
    obtain ⟨reached, deep⟩ := overflowsReading_ofCalls_iff.1 exceeds
    have fewer := among.length_le
    have enough : Expr.depthFor (Scanner.ofTokens operand) ≤ calls := by
      simp only [Expr.depthFor, Scanner.size, Scanner.ofTokens]
      omega
    rw [(Expr.roomSuffices _).within calls enough] at deep
    have whole : Expr.readAll (Scanner.ofTokens operand) = .error .tooDeep reached := by
      rw [Expr.readAll, Step.bind_apply, Expr.read_apply, deep]
    cases Expr.stopsOnly_readAll whole
  | @evaluating operand expression vars reached among derives exceeds =>
    have fewer := among.length_le
    have levels : expression.height ≤ calls / 2 := by
      have := Expr.height_le_length derives
      omega
    have deep := overflowsEvaluating_ofCalls_iff.1 exceeds
    rw [Expr.evalInRoom_eq expression levels] at deep
    cases Expr.stopsOnly_eval expression deep

/-- A chain of assignments that is longer than the room is too deep to be read. -/
theorem overflowsReading_of_chain {name : String} (free : name ∉ reserved) {calls count : Nat} (little : calls ≤ count)
    {later : List Token} (proper : ∀ token ∈ later, token.isEnding = false) :
    (ofCalls calls).overflowsReading (Expr.assignments name count ++ later) = true := by
  have listed : ∀ token ∈ Expr.assignments name count ++ later, token.isEnding = false := by
    intro token member
    rcases List.mem_append.1 member with member | member
    · obtain ⟨pair, among, member⟩ := List.mem_flatten.1 member
      rw [List.eq_of_mem_replicate among] at member
      rcases List.mem_pair.1 member with rfl | rfl <;> rfl
    · exact proper token member
  rw [overflowsReading_ofCalls_iff]
  exact Expr.readInRoom_assignments free little _ (Scanner.isBefore_ofTokens listed)

end Stack

end LineBasic
