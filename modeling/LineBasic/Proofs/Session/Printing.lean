import Mathlib
import LineBasic.Proofs.Expr.Rendering
import LineBasic.Proofs.Number.Readers
import LineBasic.Proofs.Session.Perform

/-!
What `PRINT` writes is read back. The line that is written for a value is a literal, a
reply and an expression at once, and each way of reading it has the value back
(`readsBack_write`). With the readers' agreement on all other texts this says that no value
changes on its way out and in again (`readers_agree`).
-/
namespace LineBasic.Session

open Decimal

/-- Every way of reading the text has the integer back, whatever the variables are. -/
def ReadsBack (text : String) (n : Int) : Prop :=
  readLiteral text = .ok n ∧ readReply text = .ok n ∧
    ∀ vars : Variables, ∃ expression, Expr.ofText text = .ok expression ∧ expression.eval vars = .ok n vars

theorem readsBack_write {n : Int} (inside : Word.InRange n) : ReadsBack (write n) n := by
  have read : Expr.ofText (write n) = .ok (.constant n) := @Expr.ofText_render (.constant n) inside
  refine ⟨readLiteral_write inside, readReply_write inside, fun vars => ⟨.constant n, read, ?_⟩⟩
  rfl

/-- A literal and a reply answer what their texts denote and refuse every other text. So
    a text without blanks and plus signs is the same to both. And whatever value of the
    language `PRINT` has to write, the line it writes is read back as that value: as a
    literal, as a reply and as an expression. -/
theorem readers_agree :
    (∀ text : String, text.toList.countP Char.isDigit ≤ digitLimit →
      Decides (readLiteral text) (Denotes ['-'] text.toList) ∧
        Decides (readReply text) (Denotes ['+', '-'] (Text.trimmed text.toList))) ∧
    (∀ text : String, (∀ c ∈ text.toList, Text.isBlank c = false ∧ c ≠ '+') → readLiteral text = readReply text) ∧
    ∀ n, Word.InRange n → ReadsBack (write n) n ∧
      ∀ source session middle, evaluate (Operands.after Expr.readAll source) session = .ok n middle →
        ∃ after, perform .print source session = .ok () after ∧
          after.console.transcript = middle.console.transcript ++ [.line (write n)] := by
  refine ⟨fun text short => ⟨decides_readLiteral short, decides_readReply short⟩,
    fun text => readLiteral_eq_readReply, fun n inside => ⟨readsBack_write inside, ?_⟩⟩
  intro source session middle evaluated
  exact ⟨_, perform_print_ok evaluated, Console.transcript_record _ _⟩

/-- The lowest value, spelt with zeros before it, and printed as the value of a variable. -/
theorem readers_agree_lowest :
    "-002147483648".toList.countP Char.isDigit ≤ digitLimit ∧
      Denotes ['-'] "-002147483648".toList (-2147483648) ∧
      readLiteral "-002147483648" = readReply "-002147483648" ∧
      ReadsBack (write (-2147483648)) (-2147483648) ∧
      ∃ after, perform .print "PRINT x" { vars := ⟨[("x", -2147483648)]⟩, budget := 1 } = .ok () after ∧
        after.console.transcript = [.line (write (-2147483648))] := by
  have short : "-002147483648".toList.countP Char.isDigit ≤ digitLimit := by decide +kernel
  have plain : ∀ c ∈ "-002147483648".toList, Text.isBlank c = false ∧ c ≠ '+' := by
    intro c member
    simp only [String.reduceToList, List.mem_cons, List.not_mem_nil, or_false] at member
    rcases member with rfl | rfl | rfl | rfl | rfl | rfl | rfl | rfl | rfl | rfl | rfl | rfl | rfl <;> decide
  have inside : Word.InRange (-2147483648) := by decide
  have evaluated : evaluate (Operands.after Expr.readAll "PRINT x") { vars := ⟨[("x", -2147483648)]⟩, budget := 1 } =
      .ok (-2147483648) { vars := ⟨[("x", -2147483648)]⟩, budget := 1 } := by cbv
  have read : readLiteral "-002147483648" = .ok (-2147483648) := by rfl
  obtain ⟨back, prints⟩ := readers_agree.2.2 (-2147483648) inside
  exact ⟨short, ((readers_agree.1 _ short).1.1 _).1 read, readers_agree.2.1 _ plain, back, prints _ _ _ evaluated⟩

end LineBasic.Session
