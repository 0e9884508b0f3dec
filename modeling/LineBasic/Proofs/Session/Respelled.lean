import Mathlib
import LineBasic.Proofs.Session.Likeness
import LineBasic.Proofs.Statement.Sentence

/-!
Respelled statements. Blanks separate tokens and mean nothing else: two texts of the same
tokens start with the same keyword, both pass the check of a stored line or both fail it,
and do the same when they are executed, under whatever keyword (`respelled_alike`). Only
the log shows which of the two it was.
-/
namespace LineBasic.Session

/-- The sessions differ at most in their logs. -/
structure SameButLog (one other : Session) : Prop where
  program : one.program = other.program
  vars : one.vars = other.vars
  console : one.console = other.console
  budget : one.budget = other.budget

theorem respected_sameButLog : Respected (fun _ => False) SameButLog := by
  refine respected_of_kept fun one other same => ⟨same.vars, same.console, fun vars console noted noted' => ?_⟩
  exact ⟨same.program, rfl, rfl, same.budget⟩

theorem likeness_sameButLog : Likeness (fun _ => False) SameButLog where
  program := SameButLog.program
  vars := SameButLog.vars
  budget := SameButLog.budget
  changed same _ _ _ _ _ := ⟨rfl, rfl, same.console, rfl⟩
  say := respected_sameButLog.say
  asks := respected_sameButLog.asks

/-- Texts of the same tokens do the same where only the logs differ. -/
theorem agree_execute_respelled {text other : String} (same : tokenize text = tokenize other) (kind : StatementKind) :
    Step.Agree SameButLog SameButLog SameButLog (execute ⟨kind, text⟩) (execute ⟨kind, other⟩) :=
  (likeness_sameButLog.execute (Operands.operandTokens_congr same)).always

/-- Only the tokens of a text matter to its keyword, to the check of a stored line and to
    its execution under any keyword. -/
theorem respelled_alike {text other : String} (same : tokenize text = tokenize other) :
    Statement.keyword? text = Statement.keyword? other ∧
      (Form.check text = .ok () ∧ Form.check other = .ok () ∨
        Form.check text = .error (.fault .malformed) ∧ Form.check other = .error (.fault .malformed)) ∧
      ∀ (kind : StatementKind) (session : Session),
        ((execute ⟨kind, text⟩).outcome session).1 = ((execute ⟨kind, other⟩).outcome session).1 ∧
          SameButLog ((execute ⟨kind, text⟩).outcome session).2 ((execute ⟨kind, other⟩).outcome session).2 := by
  refine ⟨Statement.keyword?_congr same, ?_, fun kind session => ?_⟩
  · rw [← Form.check_congr same]
    exact (Form.check_cases text).imp (fun passed => ⟨passed, passed⟩) fun failed => ⟨failed, failed⟩
  · exact (agree_execute_respelled same kind).outcome ⟨rfl, rfl, rfl, rfl⟩

/-- A no-break space, no space and two spaces make no difference to what is printed. -/
theorem respelled_alike_print :
    tokenize "PRINT\u00a01+ B" = tokenize " PRINT 1  +B" ∧ Form.check "PRINT\u00a01+ B" = .ok () ∧
      Form.check " PRINT 1  +B" = .ok () ∧
      ∀ (kind : StatementKind) (session : Session),
        ((execute ⟨kind, "PRINT\u00a01+ B"⟩).outcome session).1 = ((execute ⟨kind, " PRINT 1  +B"⟩).outcome session).1 ∧
          SameButLog ((execute ⟨kind, "PRINT\u00a01+ B"⟩).outcome session).2
            ((execute ⟨kind, " PRINT 1  +B"⟩).outcome session).2 := by
  have same : tokenize "PRINT\u00a01+ B" = tokenize " PRINT 1  +B" := by decide +kernel
  obtain ⟨_, ⟨passed, passed'⟩ | ⟨failed, _⟩, executes⟩ := respelled_alike same
  · exact ⟨same, passed, passed', executes⟩
  · have passes : Form.check "PRINT\u00a01+ B" = .ok () := by decide +kernel
    rw [passes] at failed
    cases failed

end LineBasic.Session
