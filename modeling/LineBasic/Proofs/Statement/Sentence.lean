import Mathlib
import LineBasic.Proofs.Statement.Form

/-!
The grammar of the lines that a program may hold, on its own (`Sentence`), and the
check against it. A text passes the check exactly if its tokens are a sentence, and
is refused as malformed if they are none, whatever the numbers in it
(`check_iff_sentence`).
-/
namespace LineBasic

/-- Letters, digits and the signs of expressions are the only characters. -/
def Token.Plain (token : Token) : Prop :=
  ∀ c ∈ token.text.toList, c.isAlphanum = true ∨ c ∈ ['.', '+', '-', '*', '/', '=']

/-- The token is one of the signs `=`, `<` and `>`. -/
def Token.Relational (token : Token) : Prop := ∃ sign ∈ ["=", "<", ">"], token = ⟨.operator, sign⟩

/-- What may follow a keyword in a line that is stored. -/
inductive Follows : Keyword → List Token → Prop
  | remark (comment : List Token) : Follows .remark comment
  | assign {name : String} {source : List Token} (identifies : isIdentifier name = true)
      (once : ⟨.operator, "="⟩ ∉ source) : Follows .assign (⟨.word, name⟩ :: ⟨.operator, "="⟩ :: source)
  | print {operands : List Token} (plain : ∀ token ∈ operands, token.Plain) : Follows .print operands
  | input {name : String} (identifies : isIdentifier name = true) : Follows .input [⟨.word, name⟩]
  | stop : Follows .stop []
  | jump {number : String} (digits : ∀ c ∈ number.toList, c.isDigit = true) : Follows .jump [⟨.number, number⟩]
  | branch {left right : List Token} {sign : Token} {number : String} (relates : sign.Relational)
      (plainLeft : ∀ token ∈ left, token.Plain ∧ ¬ token.Relational)
      (plainRight : ∀ token ∈ right, token.Plain ∧ ¬ token.Relational ∧ token ≠ ⟨.word, "THEN"⟩)
      (digits : ∀ c ∈ number.toList, c.isDigit = true) :
      Follows .branch (left ++ sign :: (right ++ [⟨.word, "THEN"⟩, ⟨.number, number⟩]))

/-- The tokens of a line that may be stored: a keyword, and what may follow it. -/
inductive Sentence : List Token → Prop
  | intro {keyword : Keyword} {operands : List Token} (follows : Follows keyword operands) :
      Sentence (⟨.word, keyword.word⟩ :: operands)

namespace Token

variable {token : Token}

theorem isPlain_iff : token.isPlain = true ↔ token.Plain := by
  simp [isPlain, Plain, isExpressionChar, expressionSigns]

theorem isVariable_iff : token.isVariable = true ↔ ∃ name, token = ⟨.word, name⟩ ∧ isIdentifier name = true := by
  obtain ⟨kind, text⟩ := token
  simp [isVariable, and_assoc]

theorem isLineNumber_iff :
    token.isLineNumber = true ↔ ∃ number, token = ⟨.number, number⟩ ∧ ∀ c ∈ number.toList, c.isDigit = true := by
  obtain ⟨kind, text⟩ := token
  simp [isLineNumber, and_assoc]

theorem isThen_iff : token.isThen = true ↔ token = ⟨.word, "THEN"⟩ := by
  obtain ⟨kind, text⟩ := token
  simp [isThen, thenWord]

theorem isSign_iff_eq {sign : String} : token.isSign sign = true ↔ token = ⟨.operator, sign⟩ := by
  obtain ⟨kind, text⟩ := token
  simp [isSign]

theorem isRelation_iff : token.isRelation = true ↔ token.Relational := by
  obtain ⟨kind, text⟩ := token
  unfold isRelation relation?
  constructor
  · intro relates
    by_cases operator : kind = .operator
    · subst operator
      rw [if_pos rfl] at relates
      obtain ⟨relation, found⟩ := Option.isSome_iff_exists.1 relates
      have same := List.find?_some (p := fun other : Relation => other.sign == text) found
      refine ⟨relation.sign, ?_, by rw [beq_iff_eq.1 same]⟩
      cases relation <;> decide
    · rw [if_neg operator] at relates
      cases relates
  · rintro ⟨sign, listed, same⟩
    cases same
    revert listed
    revert text
    decide

theorem isRelation_eq_false_iff : token.isRelation = false ↔ ¬ token.Relational := by
  rw [← isRelation_iff, Bool.not_eq_true]

end Token

/-- A first relation and the first `THEN` after it part a branch. -/
theorem Branch.ofTokens?_of_parts {left right : List Token} {sign : Token} (target : Token) (relates : sign.Relational)
    (first : ∀ token ∈ left, ¬ token.Relational) (unparted : ∀ token ∈ right, token ≠ ⟨.word, "THEN"⟩) :
    ∃ relation, sign.relation? = some relation ∧
      ofTokens? (left ++ sign :: (right ++ [⟨.word, "THEN"⟩, target])) = some ⟨left, relation, right, target⟩ := by
  obtain ⟨relation, found⟩ := Option.isSome_iff_exists.1 (Token.isRelation_iff.2 relates)
  refine ⟨relation, found, ofTokens?_eq_some_iff.2 ⟨sign, _, rfl, found, rfl, ?_, ?_⟩⟩
  · intro token member
    exact Token.isRelation_eq_false_iff.2 (first token member)
  · intro token member
    rw [← Bool.not_eq_true, Token.isThen_iff]
    exact unparted token member

namespace Form

theorem follows_branch_iff {operands : List Token} : admitsCondition operands = true ↔ Follows .branch operands := by
  rw [admitsCondition_iff_split]
  constructor
  · rintro ⟨left, sign, later, rfl, relates, admitted, plainLeft⟩
    obtain ⟨right, word, target, rfl, isThen, numeral, plainRight⟩ := admitsConsequence_iff.1 admitted
    obtain ⟨number, rfl, digits⟩ := Token.isLineNumber_iff.1 numeral
    obtain rfl := Token.isThen_iff.1 isThen
    refine .branch (Token.isRelation_iff.1 relates) (fun token member => ?_) (fun token member => ?_) digits
    · obtain ⟨other, plain⟩ := plainLeft token member
      exact ⟨Token.isPlain_iff.1 plain, Token.isRelation_eq_false_iff.1 other⟩
    · obtain ⟨unparted, other, plain⟩ := plainRight token member
      refine ⟨Token.isPlain_iff.1 plain, Token.isRelation_eq_false_iff.1 other, ?_⟩
      rintro rfl
      cases unparted
  · intro follows
    cases follows with
    | @branch left right sign number relates plainLeft plainRight digits =>
      refine ⟨left, sign, _, rfl, Token.isRelation_iff.2 relates, ?_, fun token member => ?_⟩
      · refine admitsConsequence_iff.2 ⟨right, _, _, rfl, rfl, Token.isLineNumber_iff.2 ⟨number, rfl, digits⟩, ?_⟩
        intro token member
        obtain ⟨plain, other, unparted⟩ := plainRight token member
        refine ⟨?_, Token.isRelation_eq_false_iff.2 other, Token.isPlain_iff.2 plain⟩
        rw [← Bool.not_eq_true, Token.isThen_iff]
        exact unparted
      · obtain ⟨plain, other⟩ := plainLeft token member
        exact ⟨Token.isRelation_eq_false_iff.2 other, Token.isPlain_iff.2 plain⟩

/-- The operands of a keyword are admitted exactly if they may follow it. -/
theorem admits_iff_follows {text : String} {keyword : Keyword} {operands : List Token}
    (listed : Lexer.tokens text.toList = ⟨.word, keyword.word⟩ :: operands) :
    admits text keyword operands = true ↔ Follows keyword operands := by
  cases keyword with
  | remark => exact ⟨fun _ => .remark operands, fun _ => rfl⟩
  | assign =>
    rw [admits, admitsAssignment_iff]
    constructor
    · rintro ⟨target, sign, source, rfl, named, joins, free⟩
      obtain ⟨name, rfl, identifies⟩ := Token.isVariable_iff.1 named
      obtain rfl := Token.isSign_iff_eq.1 joins
      refine .assign identifies fun member => ?_
      have again := free _ member
      cases again
    · intro follows
      cases follows with
      | assign identifies once =>
        refine ⟨_, _, _, rfl, Token.isVariable_iff.2 ⟨_, rfl, identifies⟩, rfl, fun token member => ?_⟩
        rw [← Bool.not_eq_true, Token.isSign_iff_eq]
        rintro rfl
        exact once member
  | print =>
    have starts : Statement.keyword? text = .ok (some .print) := by
      rw [Statement.keyword?_eq, listed]
      rfl
    have rest : Operands.operandTokens text = operands := by rw [Operands.operandTokens, listed, List.tail_cons]
    rw [admits, admitsPrinting_iff starts, rest]
    simp only [Token.isPlain_iff]
    constructor
    · exact fun plain => .print plain
    · intro follows
      cases follows with
      | print plain => exact plain
  | input =>
    rw [admits, isOnly_iff]
    constructor
    · rintro ⟨target, rfl, named⟩
      obtain ⟨name, rfl, identifies⟩ := Token.isVariable_iff.1 named
      exact .input identifies
    · intro follows
      cases follows with
      | input identifies => exact ⟨_, rfl, Token.isVariable_iff.2 ⟨_, rfl, identifies⟩⟩
  | stop =>
    rw [admits, List.isEmpty_iff]
    constructor
    · rintro rfl
      exact .stop
    · intro follows
      cases follows
      rfl
  | jump =>
    rw [admits, isOnly_iff]
    constructor
    · rintro ⟨target, rfl, numeral⟩
      obtain ⟨number, rfl, digits⟩ := Token.isLineNumber_iff.1 numeral
      exact .jump digits
    · intro follows
      cases follows with
      | jump digits => exact ⟨_, rfl, Token.isLineNumber_iff.2 ⟨_, rfl, digits⟩⟩
  | branch => exact follows_branch_iff

theorem check_iff_follows {text : String} {keyword : Keyword} (starts : Statement.keyword? text = .ok (some keyword)) :
    check text = .ok () ↔ Follows keyword (Operands.operandTokens text) :=
  (check_iff_admits starts).trans (admits_iff_follows (Statement.tokens_of_keyword? starts))

theorem check_eq_ok_iff (text : String) : check text = .ok () ↔ Sentence (Lexer.tokens text.toList) := by
  rw [check_iff]
  constructor
  · rintro ⟨⟨kind, word⟩, operands, keyword, listed, starts, fits⟩
    obtain ⟨rfl, rfl⟩ := Token.keyword?_eq_some_iff.1 starts
    rw [listed]
    exact .intro ((admits_iff_follows listed).1 fits)
  · intro sentence
    cases listed : Lexer.tokens text.toList with
    | nil =>
      rw [listed] at sentence
      cases sentence
    | cons first operands =>
      rw [listed] at sentence
      cases sentence with
      | @intro keyword _ follows =>
        exact ⟨_, _, keyword, rfl, Token.keyword?_eq_some_iff.2 ⟨rfl, rfl⟩, (admits_iff_follows listed).2 follows⟩

/-- A text has tokens. It passes the check if they are a sentence, and is refused as
    malformed if they are none. -/
theorem check_iff_sentence (text : String) :
    ∃ tokens, tokenize text = .ok tokens ∧ (check text = .ok () ↔ Sentence tokens) ∧
      (check text = .error (.fault .malformed) ↔ ¬ Sentence tokens) := by
  refine ⟨Lexer.tokens text.toList, tokenize_eq text, check_eq_ok_iff text, ?_⟩
  rw [← check_eq_ok_iff]
  rcases check_cases text with passed | refused
  · simp [passed]
  · simp [refused]

end Form

end LineBasic
