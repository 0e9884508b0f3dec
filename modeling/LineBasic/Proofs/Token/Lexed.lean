import Mathlib
import LineBasic.Proofs.Token.Ahead
import LineBasic.Text.Lemmas

/-!
What the tokens of a text look like. A word is a letter and then letters and
digits, a numeral starts with a digit instead, and any other token is one sign
(`lexed_of_mem_tokens`); by itself each is one token again (`tokens_of_lexed`). Their
characters are those of the text, in order, and only blanks are left out
(`toList_lex_append`, `mem_of_mem_tokens`, `exists_mem_tokens`).
-/
namespace LineBasic

/-- The tokens that texts are made of. -/
inductive Token.Lexed : Token → Prop
  | word {first : Char} {rest : List Char} (letter : first.isAlpha = true)
      (run : ∀ c ∈ rest, c.isAlphanum = true) : Lexed ⟨.word, String.ofList (first :: rest)⟩
  | numeral {first : Char} {rest : List Char} (digit : first.isDigit = true)
      (run : ∀ c ∈ rest, c.isAlphanum = true) : Lexed ⟨.number, String.ofList (first :: rest)⟩
  | sign {c : Char} (other : c.isAlphanum = false) (shows : Text.isBlank c = false) :
      Lexed ⟨.operator, String.ofList [c]⟩

/-- A word of a text that is not reserved can name a variable. -/
theorem Token.Lexed.isIdentifier {token : Token} (lexed : token.Lexed) (kind : token.kind = .word)
    (free : token.text ∉ reserved) : isIdentifier token.text = true := by
  cases lexed with
  | @word first rest letter run =>
    have unreserved : reserved.contains (String.ofList (first :: rest)) = false := by simpa using free
    simp only [LineBasic.isIdentifier, String.toList_ofList, letter, List.all_eq_true.2 run, unreserved]
    decide
  | numeral => cases kind
  | sign => cases kind

theorem not_mem_reserved_of_isIdentifier {name : String} (named : isIdentifier name = true) : name ∉ reserved := by
  intro listed
  unfold isIdentifier at named
  split at named
  · cases named
  · simp [listed] at named

theorem Token.Lexed.isEnding_eq_false {token : Token} (lexed : token.Lexed) : token.isEnding = false := by
  cases lexed <;> rfl

/-- Words and numerals consist of letters and digits. -/
theorem Token.Lexed.isAlphanum {token : Token} (lexed : token.Lexed) (kind : token.kind ≠ .operator) :
    ∀ c ∈ token.text.toList, c.isAlphanum = true := by
  cases lexed with
  | word letter run =>
    rw [String.toList_ofList, List.forall_mem_cons]
    exact ⟨by simp [Char.isAlphanum, letter], run⟩
  | numeral digit run =>
    rw [String.toList_ofList, List.forall_mem_cons]
    exact ⟨by simp [Char.isAlphanum, digit], run⟩
  | sign => exact absurd rfl kind

/-- No character of a token is blank. -/
theorem Token.Lexed.isBlank_eq_false {token : Token} (lexed : token.Lexed) :
    ∀ c ∈ token.text.toList, Text.isBlank c = false := by
  by_cases kind : token.kind = .operator
  · cases lexed with
    | word => cases kind
    | numeral => cases kind
    | sign _ shows =>
      rw [String.toList_ofList]
      simpa using shows
  · exact fun c shown => Text.isBlank_eq_false_of_isAlphanum (lexed.isAlphanum kind c shown)

namespace Lexer

private theorem first_dropWhile {inRun : Char → Bool} {text rest : List Char} {c : Char}
    (start : text.dropWhile inRun = c :: rest) : inRun c = false := by
  have first := List.head?_dropWhile_not inRun text
  rw [start] at first
  simpa using first

/-- The first token of a text, unless it is the ending, is one that texts are made of. -/
theorem lexed_lex {text : List Char} (more : (lex text).1.isEnding = false) : (lex text).1.Lexed := by
  have runs : ∀ rest : List Char, ∀ c ∈ rest.takeWhile Char.isAlphanum, c.isAlphanum = true :=
    fun rest => List.all_eq_true.1 List.all_takeWhile
  unfold lex at more ⊢
  cases start : text.dropWhile Text.isBlank with
  | nil => simp [start, Token.ending, Token.isEnding] at more
  | cons c rest =>
    dsimp only
    split_ifs with letter digit
    · exact .word letter (runs rest)
    · exact .numeral digit (runs rest)
    · have other : c.isAlphanum = false := by simp [Char.isAlphanum, letter, digit]
      exact .sign other (first_dropWhile start)

theorem lexed_of_mem_tokens {text : List Char} {token : Token} (member : token ∈ tokens text) : token.Lexed := by
  induction text using tokens.induct with
  | case1 text more ih =>
    rw [tokens_of_more more] at member
    rcases List.mem_cons.1 member with rfl | member
    · exact lexed_lex more
    · exact ih member
  | case2 text ends =>
    rw [tokens_of_isEnding (by simpa using ends)] at member
    exact absurd member List.not_mem_nil

/-- The first token and what is left after it are the text without the blanks
    before it. -/
theorem toList_lex_append (text : List Char) :
    (lex text).1.text.toList ++ (lex text).2 = text.dropWhile Text.isBlank := by
  unfold lex
  cases start : text.dropWhile Text.isBlank with
  | nil => rfl
  | cons c rest =>
    dsimp only
    split_ifs <;> simp [List.takeWhile_append_dropWhile]

/-- What starts with a digit starts with a numeral. -/
theorem lex_of_isDigit {c : Char} {rest : List Char} (digit : c.isDigit = true) :
    lex (c :: rest) =
      (⟨.number, String.ofList (c :: rest.takeWhile Char.isAlphanum)⟩, rest.dropWhile Char.isAlphanum) := by
  have shows : ¬ Text.isBlank c = true := by
    simp [Text.isBlank_eq_false_of_isAlphanum (show c.isAlphanum = true by simp [Char.isAlphanum, digit])]
  have letter : ¬ c.isAlpha = true := by simp [Text.isAlpha_eq_false_of_isDigit digit]
  unfold lex
  rw [List.dropWhile_cons_of_neg shows]
  simp only [letter, digit, ↓reduceIte]
  rfl

/-- The first token is then that numeral. -/
theorem tokens_of_isDigit {c : Char} {rest : List Char} (digit : c.isDigit = true) :
    ∃ numeral later, tokens (c :: rest) = ⟨.number, numeral⟩ :: later := by
  have first := @lex_of_isDigit c rest digit
  have more : (lex (c :: rest)).1.isEnding = false := by rw [first]; rfl
  exact ⟨_, _, by rw [tokens_of_more more, first]⟩

theorem lex_of_lexed {token : Token} (lexed : token.Lexed) : lex token.text.toList = (token, []) := by
  cases lexed with
  | @word first rest letter run =>
    have shows : ¬ Text.isBlank first = true := by
      simp [Text.isBlank_eq_false_of_isAlphanum (show first.isAlphanum = true by simp [Char.isAlphanum, letter])]
    unfold lex
    rw [String.toList_ofList, List.dropWhile_cons_of_neg shows]
    simp only [letter, ↓reduceIte, List.takeWhile_eq_self_iff.2 run, List.dropWhile_eq_nil_iff.2 run]
  | numeral digit run =>
    rw [String.toList_ofList, lex_of_isDigit digit, List.takeWhile_eq_self_iff.2 run, List.dropWhile_eq_nil_iff.2 run]
  | @sign c other shows =>
    simp only [Char.isAlphanum, Bool.or_eq_false_iff] at other
    unfold lex
    rw [String.toList_ofList, List.dropWhile_cons_of_neg (by simp [shows])]
    simp [other]

/-- The characters of a token are that token alone. -/
theorem tokens_of_lexed {token : Token} (lexed : token.Lexed) : tokens token.text.toList = [token] := by
  have first := lex_of_lexed lexed
  rw [tokens_of_more (by rw [first]; exact lexed.isEnding_eq_false), first, tokens_nil]

/-- Digits alone are one numeral. -/
theorem tokens_of_digits {digits : List Char} (some : digits ≠ []) (all : ∀ c ∈ digits, c.isDigit = true) :
    tokens digits = [⟨.number, String.ofList digits⟩] := by
  obtain ⟨c, rest, rfl⟩ := List.exists_cons_of_ne_nil some
  obtain ⟨digit, others⟩ := List.forall_mem_cons.1 all
  have run : ∀ d ∈ rest, d.isAlphanum = true := fun d member => by simp [Char.isAlphanum, others d member]
  have alone := tokens_of_lexed (.numeral digit run)
  rwa [String.toList_ofList] at alone

/-- The name of a variable is one word. -/
theorem tokens_of_isIdentifier {name : String} (named : isIdentifier name = true) :
    tokens name.toList = [⟨.word, name⟩] := by
  cases shown : name.toList with
  | nil => simp [isIdentifier, shown] at named
  | cons c rest =>
    simp only [isIdentifier, shown, Bool.and_eq_true, List.all_eq_true] at named
    obtain ⟨⟨letter, run⟩, _⟩ := named
    have alone := tokens_of_lexed (.word letter run)
    rwa [String.toList_ofList, ← shown, String.ofList_toList, shown] at alone

/-- The characters of the tokens are characters of the text. -/
theorem mem_of_mem_tokens {text : List Char} {token : Token} (member : token ∈ tokens text) {c : Char}
    (shown : c ∈ token.text.toList) : c ∈ text := by
  induction text using tokens.induct with
  | case1 text more ih =>
    have whole := toList_lex_append text
    have inside : ∀ d ∈ text.dropWhile Text.isBlank, d ∈ text := fun d => (List.dropWhile_suffix _).mem
    rw [tokens_of_more more] at member
    rcases List.mem_cons.1 member with rfl | member
    · exact inside c (whole ▸ List.mem_append_left _ shown)
    · exact inside c (whole ▸ List.mem_append_right _ (ih member))
  | case2 text ends =>
    rw [tokens_of_isEnding (by simpa using ends)] at member
    exact absurd member List.not_mem_nil

/-- Every character of a text that is not blank is in a token. -/
theorem exists_mem_tokens {text : List Char} {c : Char} (member : c ∈ text) (shows : Text.isBlank c = false) :
    ∃ token ∈ tokens text, c ∈ token.text.toList := by
  have kept : ∀ text : List Char, c ∈ text → c ∈ (lex text).1.text.toList ++ (lex text).2 := by
    intro text member
    rw [toList_lex_append]
    rw [← List.takeWhile_append_dropWhile (p := Text.isBlank) (l := text)] at member
    refine (List.mem_append.1 member).resolve_left fun skipped => ?_
    have blank := List.all_eq_true.1 List.all_takeWhile c skipped
    rw [shows] at blank
    cases blank
  induction text using tokens.induct with
  | case1 text more ih =>
    rw [tokens_of_more more]
    rcases List.mem_append.1 (kept text member) with here | later
    · exact ⟨_, List.mem_cons_self, here⟩
    · obtain ⟨token, listed, shown⟩ := ih later
      exact ⟨token, List.mem_cons_of_mem _ listed, shown⟩
  | case2 text ends =>
    have whole := kept text member
    rw [lex_of_isEnding (by simpa using ends)] at whole
    simp [Token.ending] at whole

end Lexer

end LineBasic
