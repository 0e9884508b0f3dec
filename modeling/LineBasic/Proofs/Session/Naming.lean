import Mathlib
import LineBasic.Proofs.Expr.Rendering
import LineBasic.Proofs.Session.Dispatch
import LineBasic.Proofs.Statement.Sentence

/-!
What a variable may be called. Whether a word is the name of a variable is asked of its
characters, of its tokens, of the reader of expressions, of the check of a stored line and of
the session that assigns to it, and they all answer the same (`naming_agreed`).
-/
namespace LineBasic

variable {word : String} {n : Int}

/-! ### Lines about a variable -/

namespace Lexer

/-- What stands before and after a sign between spaces has its own tokens. -/
theorem tokens_assignment (target source : String) :
    tokens ("LET " ++ target ++ " = " ++ source).toList =
      ⟨.word, Keyword.assign.word⟩ :: (tokens target.toList ++ ⟨.operator, "="⟩ :: tokens source.toList) := by
  have blank : Text.isBlank ' ' = true := by decide
  have shown : ("LET " ++ target ++ " = " ++ source).toList =
      Keyword.assign.word.toList ++ ' ' :: (target.toList ++ ' ' :: '=' :: ' ' :: source.toList) := by
    simp [Keyword.word]
  rw [shown, tokens_keyword, tokens_append (apart_of_blank (by simp [blank])), tokens_cons_of_isBlank blank,
    tokens_cons_of_sign (by decide) (by decide), tokens_cons_of_isBlank blank]

end Lexer

/-- A word without blanks at its ends names a variable if it is one token and that is one. -/
theorem isIdentifier_iff_tokens (bare : Text.trim word = word) :
    isIdentifier word = true ↔ ∃ token, Lexer.tokens word.toList = [token] ∧ token.isVariable = true := by
  constructor
  · intro named
    exact ⟨_, Lexer.tokens_of_isIdentifier named, Token.isVariable_iff.2 ⟨word, rfl, named⟩⟩
  · rintro ⟨token, listed, isVar⟩
    obtain ⟨name, rfl, named⟩ := Token.isVariable_iff.1 isVar
    have whole := Lexer.trimmed_of_tokens_singleton listed
    rw [← bare, Text.trim, whole, String.ofList_toList]
    exact named

theorem isIdentifier_iff_tokenize :
    isIdentifier word = true ↔ tokenize word = .ok [⟨.word, word⟩] ∧ word ∉ reserved := by
  rw [tokenize_eq, Except.ok.injEq]
  constructor
  · exact fun named => ⟨Lexer.tokens_of_isIdentifier named, not_mem_reserved_of_isIdentifier named⟩
  · rintro ⟨listed, free⟩
    have lexed : Token.Lexed ⟨.word, word⟩ := Lexer.lexed_of_mem_tokens (listed ▸ List.mem_cons_self)
    exact lexed.isIdentifier rfl free

theorem isIdentifier_iff_ofText : isIdentifier word = true ↔ Expr.ofText word = .ok (.identifier word) :=
  ⟨fun named => @Expr.ofText_render (.identifier word) named, Expr.wellFormed_of_ofText⟩

/-- An assignment to a word passes the check if the word names a variable. -/
theorem isIdentifier_iff_check_assignment (bare : Text.trim word = word) :
    isIdentifier word = true ↔ Form.check ("LET " ++ word ++ " = 0") = .ok () := by
  have listed : Lexer.tokens ("LET " ++ word ++ " = 0").toList =
      ⟨.word, Keyword.assign.word⟩ :: (Lexer.tokens word.toList ++ ⟨.operator, "="⟩ :: Lexer.tokens "0".toList) := by
    rw [← Lexer.tokens_assignment, @String.append_assoc ("LET " ++ word) " = " "0"]
    rfl
  rw [Form.check_iff_follows (Statement.keyword?_of_tokens listed), Operands.operandTokens, listed, List.tail_cons]
  constructor
  · intro named
    have once : ⟨.operator, "="⟩ ∉ Lexer.tokens "0".toList := by decide +kernel
    rw [Lexer.tokens_of_isIdentifier named]
    exact .assign named once
  · intro follows
    rw [isIdentifier_iff_tokens bare]
    generalize Lexer.tokens word.toList = target at follows ⊢
    generalize split : target ++ ⟨.operator, "="⟩ :: Lexer.tokens "0".toList = operands at follows
    cases follows with
    | @assign name source identifies once =>
      rcases target with _ | ⟨first, _ | ⟨sign, later⟩⟩
      · cases split
      · rw [List.cons_append, List.cons.injEq] at split
        exact ⟨first, rfl, Token.isVariable_iff.2 ⟨name, split.1, identifies⟩⟩
      · -- The sign after the word would be a second one.
        rw [List.cons_append, List.cons_append, List.cons.injEq, List.cons.injEq] at split
        obtain ⟨_, _, rfl⟩ := split
        exact absurd (List.mem_append_right _ List.mem_cons_self) once

theorem isIdentifier_iff_check_input (bare : Text.trim word = word) :
    isIdentifier word = true ↔ Form.check ("INPUT " ++ word) = .ok () := by
  have shown : ("INPUT " ++ word).toList = Keyword.input.word.toList ++ ' ' :: word.toList := by simp [Keyword.word]
  have listed : Lexer.tokens ("INPUT " ++ word).toList = ⟨.word, Keyword.input.word⟩ :: Lexer.tokens word.toList := by
    rw [shown, Lexer.tokens_keyword]
  rw [Form.check_iff_follows (Statement.keyword?_of_tokens listed), Operands.operandTokens, listed, List.tail_cons]
  constructor
  · intro named
    rw [Lexer.tokens_of_isIdentifier named]
    exact .input named
  · intro follows
    rw [isIdentifier_iff_tokens bare]
    generalize Lexer.tokens word.toList = operands at follows
    cases follows with
    | @input name identifies => exact ⟨_, rfl, Token.isVariable_iff.2 ⟨name, rfl, identifies⟩⟩

namespace Session

/-! ### Assigning and printing -/

theorem operandTokens_trim (line : String) :
    Operands.operandTokens (Text.trim line) = (Lexer.tokens line.toList).tail := by
  rw [Operands.operandTokens, Lexer.tokens_trim]

/-- A value that is assigned as a literal is the variable's. -/
theorem process_assignment (named : isIdentifier word = true) (inside : Word.InRange n) {session : Session} {left : Nat}
    (budget : session.budget = left + 1) (verbose : Bool) :
    ∃ noted, Shell.process verbose ("LET " ++ word ++ " = " ++ Decimal.write n) session =
      .ok true { session with
        program := session.program.advance
        vars := session.vars.set word n
        noted := noted
        budget := left } := by
  have listed := Lexer.tokens_assignment word (Decimal.write n)
  generalize "LET " ++ word ++ " = " ++ Decimal.write n = line at listed
  have operands : Operands.operandTokens (Text.trim line) =
      ⟨.word, word⟩ :: ⟨.operator, "="⟩ :: Lexer.tokens (Decimal.write n).toList := by
    rw [operandTokens_trim, listed, List.tail_cons, Lexer.tokens_of_isIdentifier named, List.singleton_append]
  have source : Expr.ofTokens (Lexer.tokens (Decimal.write n).toList) = .ok (.constant n) :=
    (Expr.ofTokens_iff_derives (fun _ => Lexer.isEnding_of_mem_tokens) _).2
      ((Expr.derives_write inside).lower (Nat.zero_le 3))
  have read : Operands.after Operands.assignment (Text.trim line) = .ok (word, .constant n) := by
    rw [Operands.after_assignment operands named, source]
    rfl
  obtain ⟨noted, handed⟩ := execute_known .assign (Text.trim line) budget
  exact ⟨noted, Shell.process_of_execute_ok rfl listed (handed.trans (perform_assign_ok read rfl)) verbose⟩

/-- The value of a variable is written. -/
theorem process_print (named : isIdentifier word = true) {session : Session} {left : Nat}
    (budget : session.budget = left + 1) (valued : session.vars.get? word = some n) (verbose : Bool) :
    ∃ noted, Shell.process verbose ("PRINT " ++ word) session =
      .ok true { session with
        program := session.program.advance
        console := session.console.record (.line (Decimal.write n))
        noted := noted
        budget := left } := by
  have shown : ("PRINT " ++ word).toList = Keyword.print.word.toList ++ ' ' :: word.toList := by simp [Keyword.word]
  have listed : Lexer.tokens ("PRINT " ++ word).toList = ⟨.word, Keyword.print.word⟩ :: Lexer.tokens word.toList := by
    rw [shown, Lexer.tokens_keyword]
  generalize "PRINT " ++ word = line at listed
  have read : Operands.after Expr.readAll (Text.trim line) = .ok (.identifier word) := by
    rw [Operands.after_readAll_iff, operandTokens_trim, listed, List.tail_cons, ← Expr.ofText_iff_derives]
    exact isIdentifier_iff_ofText.1 named
  obtain ⟨noted, handed⟩ := execute_known .print (Text.trim line) budget
  have evaluated : evaluate (Operands.after Expr.readAll (Text.trim line))
      { session with budget := left, noted := noted } = .ok n { session with budget := left, noted := noted } := by
    have value : (Expr.identifier word).eval session.vars = .ok n session.vars := by
      rw [Expr.eval, Variables.read, valued]
    rw [evaluate_apply, read]
    dsimp only
    rw [value]
  exact ⟨noted, Shell.process_of_execute_ok rfl listed (handed.trans (perform_print_ok evaluated)) verbose⟩

/-! ### Names -/

theorem isIdentifier_of_isDefined {session : Session} (proper : session.Proper)
    (defined : session.vars.isDefined word = true) : isIdentifier word = true := by
  obtain ⟨value, found⟩ := Option.isSome_iff_exists.1 defined
  obtain ⟨before, after, split, _⟩ := List.lookup_eq_some_iff.1 found
  have member : (word, value) ∈ session.vars.entries := split ▸ List.mem_append_right _ List.mem_cons_self
  exact (proper.vars _ member).1

/-- Whoever is asked whether a word is the name of a variable answers the same: its characters
    and its tokens, the reader of expressions, the check of an assignment and of an `INPUT`,
    and a new session, where the word has a value if one is assigned to it. That is the value
    which was assigned, and which `PRINT` writes. -/
theorem naming_agreed (bare : Text.trim word = word) (inside : Word.InRange n) (verbose : Bool) (console : Console)
    (budget : Nat) :
    let fresh : Session := { console := console, budget := budget + 2 }
    let assigned := (Shell.process verbose ("LET " ++ word ++ " = " ++ Decimal.write n)).reached fresh
    List.TFAE [
        isIdentifier word = true,
        tokenize word = .ok [⟨.word, word⟩] ∧ word ∉ reserved,
        Expr.ofText word = .ok (.identifier word),
        Form.check ("LET " ++ word ++ " = 0") = .ok (),
        Form.check ("INPUT " ++ word) = .ok (),
        assigned.vars.isDefined word = true] ∧
      (isIdentifier word = true →
        assigned.vars.get? word = some n ∧
          ((Shell.process verbose ("PRINT " ++ word)).reached assigned).console =
            assigned.console.record (.line (Decimal.write n))) := by
  intro fresh assigned
  have typed := (Typed.fresh console (budget + 2)).line verbose ("LET " ++ word ++ " = " ++ Decimal.write n)
  have assigns : isIdentifier word = true →
      ∃ noted, assigned = { console := console, vars := Variables.set {} word n, noted := noted, budget := budget + 1 } := by
    intro named
    obtain ⟨noted, done⟩ := @process_assignment word n named inside fresh (budget + 1) rfl verbose
    exact ⟨noted, Step.reached_eq_of_ok done⟩
  have valued : (Variables.set {} word n).get? word = some n := by rw [Variables.get?_set, if_pos rfl]
  refine ⟨?_, fun named => ?_⟩
  · tfae_have 1 ↔ 2 := isIdentifier_iff_tokenize
    tfae_have 1 ↔ 3 := isIdentifier_iff_ofText
    tfae_have 1 ↔ 4 := isIdentifier_iff_check_assignment bare
    tfae_have 1 ↔ 5 := isIdentifier_iff_check_input bare
    tfae_have 1 → 6 := by
      intro named
      obtain ⟨noted, same⟩ := assigns named
      rw [same, Variables.isDefined, valued]
      rfl
    tfae_have 6 → 1 := isIdentifier_of_isDefined typed.reachable.proper
    tfae_finish
  · obtain ⟨noted, same⟩ := assigns named
    rw [same]
    obtain ⟨noted', printed⟩ := @process_print word n named
      { console := console, vars := Variables.set {} word n, noted := noted, budget := budget + 1 } budget rfl valued verbose
    exact ⟨valued, by rw [Step.reached_eq_of_ok printed]⟩

/-- The lowest value is assigned and printed. An assignment to what is an assignment itself
    is refused. -/
theorem naming_agreed_lowest :
    (Text.trim "x1" = "x1" ∧ Text.trim "x = y" = "x = y" ∧ Word.InRange (-2147483648)) ∧
      (let assigned := (Shell.process false ("LET " ++ "x1" ++ " = " ++ Decimal.write (-2147483648))).reached { budget := 2 }
      assigned.vars.get? "x1" = some (-2147483648) ∧
        ((Shell.process false ("PRINT " ++ "x1")).reached assigned).console =
          assigned.console.record (.line (Decimal.write (-2147483648)))) ∧
      Form.check ("LET " ++ "x = y" ++ " = 0") ≠ .ok () := by
  have bare : Text.trim "x1" = "x1" := by decide +kernel
  have bareOther : Text.trim "x = y" = "x = y" := by decide +kernel
  have inside : Word.InRange (-2147483648) := by decide
  have named : isIdentifier "x1" = true := by decide +kernel
  have other : ¬ isIdentifier "x = y" = true := by decide +kernel
  refine ⟨⟨bare, bareOther, inside⟩, (naming_agreed bare inside false {} 0).2 named, fun checked => other ?_⟩
  exact ((naming_agreed bareOther inside false {} 0).1.out 0 3).2 checked

end Session

end LineBasic
