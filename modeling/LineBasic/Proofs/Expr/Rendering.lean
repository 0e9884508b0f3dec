import Mathlib
import LineBasic.Proofs.Expr.Reading
import LineBasic.Proofs.Expr.Values
import LineBasic.Proofs.Token.Concatenation

/-!
Writing expressions and reading them back. The tokens of a rendering derive the
expression that was rendered (`derives_render`), with a minus sign and a numeral for a
negative constant. And what is read is well formed (`wellFormed_of_ofTokens`) as long as
the words that it is read from can name variables, as those of a text can. So reading
and rendering undo each other (`read_render`).
-/
namespace LineBasic

/-- The token names a variable if it is taken for one. -/
def Token.Names (token : Token) : Prop := token.kind = .word → token.text ∉ reserved → isIdentifier token.text = true

theorem Token.Lexed.names {token : Token} (lexed : token.Lexed) : token.Names := lexed.isIdentifier

/-- All words ahead can name variables, unless they are reserved. -/
def Scanner.NamesAhead (scanner : Scanner) : Prop := ∀ token ∈ scanner.ahead, token.Names

namespace Scanner

theorem keeps_next : Step.Keeps NamesAhead Token.Names next := by
  intro scanner named
  obtain ⟨after, taken, rest, _⟩ := next_eq scanner
  rw [taken]
  constructor
  · cases ahead : scanner.ahead with
    | nil => exact fun kind => nomatch kind
    | cons token later => exact named token (by rw [ahead]; exact List.mem_cons_self)
  · intro token member
    rw [rest] at member
    exact named token (List.mem_of_mem_tail member)

theorem keeps_pushBack {token : Token} (names : token.Names) :
    Step.Keeps NamesAhead (fun _ => True) (pushBack token) := by
  intro scanner named
  unfold pushBack
  cases held : scanner.held with
  | some other => exact named
  | none =>
    refine ⟨trivial, fun other member => ?_⟩
    rcases List.mem_cons.1 member with rfl | member
    · exact names
    · exact named other (List.mem_append_right _ member)

theorem keeps_hasMore : Step.Keeps NamesAhead (fun _ => True) hasMore := by
  refine keeps_next.bind fun token names => ?_
  exact (keeps_pushBack names).bind fun _ _ => Step.keeps_pure trivial

end Scanner

namespace Expr

variable {expression : Expr}

/-! ### What is read is well formed -/

/-- At some depth of calls, all three readers answer with well-formed expressions. -/
structure ReadsWellFormed (depth : Nat) : Prop where
  within : ∀ threshold, Step.Keeps Scanner.NamesAhead WellFormed (readWithin depth threshold)
  joined : ∀ threshold left, left.WellFormed → Step.Keeps Scanner.NamesAhead WellFormed (readJoined depth threshold left)
  term : Step.Keeps Scanner.NamesAhead WellFormed (readTerm depth)

theorem keeps_readLiteral (text : String) :
    Step.Keeps Scanner.NamesAhead WellFormed (do return .constant (← Step.ofExcept (Decimal.readLiteral text))) :=
  (Step.keeps_ofExcept _).bind fun _ read => Step.keeps_pure (Decimal.readLiteral_inRange read)

theorem keeps_readTerm {depth : Nat} (reads : ReadsWellFormed depth) :
    Step.Keeps Scanner.NamesAhead WellFormed (readTerm (depth + 1)) := by
  refine Scanner.keeps_next.bind fun token names => ?_
  cases kind : token.kind with
  | word =>
    dsimp only
    by_cases free : token.text ∈ reserved
    · rw [if_pos (by simpa using free)]
      exact Step.keeps_fail _
    · rw [if_neg (by simpa using free)]
      exact Step.keeps_pure (names kind free)
  | number => exact keeps_readLiteral token.text
  | operator =>
    dsimp only
    by_cases minus : token.text = "-"
    · rw [if_pos minus]
      refine Scanner.keeps_next.bind fun numeral _ => ?_
      by_cases other : numeral.kind ≠ .number
      · rw [if_pos other]
        exact Step.keeps_fail _
      · rw [if_neg other]
        exact keeps_readLiteral ("-" ++ numeral.text)
    · rw [if_neg minus]
      by_cases opens : token.text = "("
      · rw [if_pos opens]
        refine (reads.within 0).bind fun inner formed => Scanner.keeps_next.bind fun closing _ => ?_
        by_cases closes : closing.isSign ")" = true
        · rw [if_pos closes]
          exact Step.keeps_pure formed
        · rw [if_neg closes]
          exact Step.keeps_fail _
      · rw [if_neg opens]
        exact Step.keeps_fail _
  | ending => exact Step.keeps_fail _
  | other name => exact Step.keeps_fail _

theorem keeps_readJoined {depth : Nat} (reads : ReadsWellFormed depth) (threshold : Int) {left : Expr}
    (formed : left.WellFormed) : Step.Keeps Scanner.NamesAhead WellFormed (readJoined (depth + 1) threshold left) := by
  refine Scanner.keeps_next.bind fun token names => ?_
  by_cases ends : (token.precedence : Int) ≤ threshold
  · rw [if_pos ends]
    exact (Scanner.keeps_pushBack names).bind fun _ _ => Step.keeps_pure formed
  · rw [if_neg ends]
    refine (reads.within _).bind fun right formedRight => ?_
    cases token.operator? with
    | some operator => exact reads.joined threshold _ ⟨formed, formedRight⟩
    | none => exact reads.joined threshold left formed

/-- One call deeper, each reader reads with the readers before it. -/
theorem readsWellFormed (depth : Nat) : ReadsWellFormed depth := by
  induction depth with
  | zero => exact ⟨fun _ => Step.keeps_throw _, fun _ _ _ => Step.keeps_throw _, Step.keeps_throw _⟩
  | succ depth reads =>
    refine ⟨fun threshold => ?_, fun threshold left formed => keeps_readJoined reads threshold formed, keeps_readTerm reads⟩
    exact reads.term.bind fun left formed => reads.joined threshold left formed

theorem keeps_readAll : Step.Keeps Scanner.NamesAhead WellFormed readAll := by
  have whole : Step.Keeps Scanner.NamesAhead WellFormed (read 0) :=
    Step.keeps_get.bind fun scanner _ => (readsWellFormed (depthFor scanner)).within 0
  refine whole.bind fun expression formed => Scanner.keeps_hasMore.bind fun more _ => ?_
  cases more with
  | true => exact Step.keeps_fail _
  | false => exact Step.keeps_pure formed

theorem wellFormed_of_ofTokens {tokens : List Token} (names : ∀ token ∈ tokens, token.Names)
    (read : ofTokens tokens = .ok expression) : expression.WellFormed := by
  have kept := keeps_readAll (Scanner.ofTokens tokens) names
  unfold ofTokens Step.isolated at read
  cases done : readAll (Scanner.ofTokens tokens) with
  | ok answer after =>
    rw [done] at kept read
    exact Except.ok.inj read ▸ kept.1
  | error stop after =>
    rw [done] at read
    cases read

theorem wellFormed_of_ofText {text : String} (read : ofText text = .ok expression) : expression.WellFormed :=
  ((ofText_iff_derives text expression).1 read).wellFormed fun _ => Lexer.lexed_of_mem_tokens

/-! ### What is rendered is read -/

/-- A value is written as a numeral, after a minus sign if it is negative. -/
theorem derives_write {value : Int} (inside : Word.InRange value) :
    Derives 3 (Lexer.tokens (Decimal.write value).toList) (.constant value) := by
  have read := Decimal.readLiteral_write inside
  have digits : ∀ n, Lexer.tokens (Nat.toDigits 10 n) = [⟨.number, String.ofList (Nat.toDigits 10 n)⟩] :=
    fun n => Lexer.tokens_of_digits Nat.toDigits_ne_nil fun c => Decimal.isDigit_of_mem_toDigits
  cases value with
  | ofNat n =>
    have shown : (Decimal.write (.ofNat n)).toList = Nat.toDigits 10 n := String.toList_ofList
    rw [shown, digits]
    exact .numeral rfl read
  | negSucc n =>
    have shown : (Decimal.write (.negSucc n)).toList = '-' :: Nat.toDigits 10 (n + 1) := String.toList_ofList
    have joined : "-" ++ String.ofList (Nat.toDigits 10 (n + 1)) = Decimal.write (.negSucc n) := by
      apply String.toList_injective
      simp [String.toList_append, shown]
    rw [shown, Lexer.tokens_cons_of_sign (by decide) (by decide), digits]
    exact .negative (by decide) rfl (joined ▸ read)

/-- Brackets and blanks keep the tokens of the operands apart. -/
theorem tokens_render_binary (operator : Operator) (left right : Expr) :
    Lexer.tokens (Expr.binary operator left right).render.toList =
      ⟨.operator, "("⟩ :: (Lexer.tokens left.render.toList ++ ⟨.operator, operator.sign⟩ ::
        Lexer.tokens right.render.toList) ++ [⟨.operator, ")"⟩] := by
  obtain ⟨c, sign, other, shows⟩ : ∃ c, operator.sign.toList = [c] ∧ c.isAlphanum = false ∧ Text.isBlank c = false := by
    rcases operator with _ | (_ | _ | _ | _) <;> exact ⟨_, rfl, by decide, by decide⟩
  have word : operator.sign = String.ofList [c] := by rw [← sign, String.ofList_toList]
  have shown : (Expr.binary operator left right).render.toList =
      '(' :: (left.render.toList ++ ' ' :: c :: ' ' :: (right.render.toList ++ [')'])) := by
    simp [render, String.toList_append, sign]
  have blank : Text.isBlank ' ' = true := by decide
  have apartLeft : Lexer.Apart left.render.toList (' ' :: c :: ' ' :: (right.render.toList ++ [')'])) :=
    Lexer.apart_of_blank (by simp [blank])
  have apartRight : Lexer.Apart right.render.toList [')'] := Lexer.apart_sign (by decide) _
  rw [shown, Lexer.tokens_cons_of_sign (by decide) (by decide), Lexer.tokens_append apartLeft,
    Lexer.tokens_cons_of_isBlank blank, Lexer.tokens_cons_of_sign other shows, Lexer.tokens_cons_of_isBlank blank,
    Lexer.tokens_append apartRight, Lexer.tokens_cons_of_sign (by decide) (by decide), Lexer.tokens_nil, word]
  simp

theorem derives_render (formed : expression.WellFormed) : Derives 3 (Lexer.tokens expression.render.toList) expression := by
  induction expression with
  | constant value => exact derives_write formed
  | identifier name =>
    rw [render, Lexer.tokens_of_isIdentifier formed]
    exact .identifier rfl (not_mem_reserved_of_isIdentifier formed)
  | binary operator left right first second =>
    have joins : Token.operator? ⟨.operator, operator.sign⟩ = some operator :=
      Token.operator?_eq_some_iff.2 (Token.isSign_iff.2 ⟨rfl, rfl⟩)
    have levels : operator.leftLevel ≤ 3 ∧ operator.rightLevel ≤ 3 := by
      rcases operator with _ | (_ | _ | _ | _) <;> decide
    have one := (first formed.1).lower levels.1
    have other := (second formed.2).lower levels.2
    rw [tokens_render_binary]
    exact .bracketed (by decide) ((one.join joins other).lower (Nat.zero_le _)) (by decide)

theorem ofText_render (formed : expression.WellFormed) : ofText expression.render = .ok expression :=
  (ofText_iff_derives _ _).2 ((derives_render formed).lower (Nat.zero_le _))

/-- A well-formed expression is had back by reading what it is rendered as. What is read
    from a text is well formed, and so is what is read from tokens whose words can name
    variables or are reserved. -/
theorem read_render :
    (∀ expression : Expr, expression.WellFormed → ofText expression.render = .ok expression) ∧
      (∀ text expression, ofText text = .ok expression →
        expression.WellFormed ∧ ofText expression.render = .ok expression) ∧
      ∀ tokens expression, (∀ token ∈ tokens, token.Names) → ofTokens tokens = .ok expression →
        expression.WellFormed ∧ ofText expression.render = .ok expression := by
  refine ⟨fun _ => ofText_render, fun text expression read => ?_, fun tokens expression names read => ?_⟩
  · have formed := wellFormed_of_ofText read
    exact ⟨formed, ofText_render formed⟩
  · have formed := wellFormed_of_ofTokens names read
    exact ⟨formed, ofText_render formed⟩

/-- The lowest value is read back after a minus, with a left side of `=` that is no variable. -/
theorem read_render_lowest :
    ofTokens [⟨.number, "1"⟩, ⟨.operator, "-"⟩, ⟨.operator, "-"⟩, ⟨.number, "2147483648"⟩, ⟨.operator, "="⟩, ⟨.word, "x"⟩] =
        .ok (.binary .assign (.binary (.arithmetic .subtract) (.constant 1) (.constant (-2147483648))) (.identifier "x")) ∧
      ofText "((1 - -2147483648) = x)" =
        .ok (.binary .assign (.binary (.arithmetic .subtract) (.constant 1) (.constant (-2147483648))) (.identifier "x")) := by
  have names : ∀ token ∈ [⟨.number, "1"⟩, ⟨.operator, "-"⟩, ⟨.operator, "-"⟩, ⟨.number, "2147483648"⟩, ⟨.operator, "="⟩,
      (⟨.word, "x"⟩ : Token)], token.Names := by
    unfold Token.Names
    decide +kernel
  have read : ofTokens [⟨.number, "1"⟩, ⟨.operator, "-"⟩, ⟨.operator, "-"⟩, ⟨.number, "2147483648"⟩, ⟨.operator, "="⟩,
      ⟨.word, "x"⟩] = .ok (.binary .assign (.binary (.arithmetic .subtract) (.constant 1) (.constant (-2147483648)))
        (.identifier "x")) := by decide +kernel
  exact ⟨read, (read_render.2.2 _ _ names read).2⟩

/-- A word that no text has is taken for a variable where it stands in a list of tokens.
    What it is rendered as is read as a numeral. -/
theorem ofTokens_word_of_digit :
    ofTokens [⟨.word, "5"⟩] = .ok (.identifier "5") ∧ ¬ (Expr.identifier "5").WellFormed ∧
      ofText (Expr.identifier "5").render = .ok (.constant 5) := by
  refine ⟨by decide +kernel, ?_, by decide +kernel⟩
  unfold WellFormed
  decide +kernel

end Expr

end LineBasic
