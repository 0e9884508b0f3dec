import Mathlib
import LineBasic.Token.Scanner

/-!
The tokens ahead of a scanner. Whatever a scanner reads, it takes its tokens from
one list, and then endings for ever (`next_isBefore_cons`, `next_isBefore_nil`).
A scanner over a text stands before the tokens of the text, and one over a list
without endings before the list, so that what is shown of a scanner before some
tokens holds of both. A list may also hold endings; then the tokens before the next one
are those that a reader comes to (`upcoming`).
-/
namespace LineBasic

theorem Token.isEnding_iff {token : Token} : token.isEnding = true ↔ token.kind = .ending := by simp [isEnding]

theorem Token.isSign_of_isEnding {token : Token} (ends : token.isEnding = true) (sign : String) :
    ¬ token.isSign sign = true := by
  simp [isSign, isEnding_iff.1 ends]

namespace Lexer

/-- The tokens of some characters, up to the ending. -/
def tokens (text : List Char) : List Token :=
  if (lex text).1.isEnding = false then (lex text).1 :: tokens (lex text).2 else []
termination_by text.length
decreasing_by exact length_lex_lt ‹_›

/-- The ending comes only when no characters are left. -/
theorem lex_of_isEnding {text : List Char} (ends : (lex text).1.isEnding = true) : lex text = (Token.ending, []) := by
  unfold lex at ends ⊢
  cases start : text.dropWhile Text.isBlank with
  | nil => rfl
  | cons c rest =>
    simp only [start] at ends
    split_ifs at ends <;> simp [Token.isEnding] at ends

theorem tokens_of_isEnding {text : List Char} (ends : (lex text).1.isEnding = true) : tokens text = [] := by
  rw [tokens, if_neg (by simp [ends])]

theorem tokens_of_more {text : List Char} (more : (lex text).1.isEnding = false) :
    tokens text = (lex text).1 :: tokens (lex text).2 := by
  rw [tokens, if_pos more]

theorem tokens_nil : tokens [] = [] := tokens_of_isEnding rfl

theorem isEnding_of_mem_tokens {text : List Char} {token : Token} (member : token ∈ tokens text) :
    token.isEnding = false := by
  induction text using tokens.induct with
  | case1 text more ih =>
    rw [tokens_of_more more] at member
    rcases List.mem_cons.1 member with rfl | member
    · exact more
    · exact ih member
  | case2 text ends =>
    rw [tokens_of_isEnding (by simpa using ends)] at member
    exact absurd member List.not_mem_nil

theorem length_tokens_le (text : List Char) : (tokens text).length ≤ text.length := by
  induction text using tokens.induct with
  | case1 text more ih =>
    have shorter := length_lex_lt more
    rw [tokens_of_more more, List.length_cons]
    omega
  | case2 text ends => rw [tokens_of_isEnding (by simpa using ends)]; exact Nat.zero_le _

end Lexer

/-- The tokens that a source has left. -/
def TokenSource.left : TokenSource → List Token
  | .characters stream => Lexer.tokens stream.rest
  | .tokens listed => listed

namespace Scanner

/-- The tokens that come next, the held one first. After them come endings. -/
def ahead (scanner : Scanner) : List Token := scanner.held.toList ++ scanner.source.left

/-- Taking a token takes the first of those ahead, and leaves none held. -/
theorem next_eq (scanner : Scanner) :
    ∃ after, next scanner = .ok (scanner.ahead.headD Token.ending) after ∧ after.ahead = scanner.ahead.tail ∧
      after.held = none := by
  rcases scanner with ⟨stream | (_ | ⟨token, tokens⟩), _ | held⟩
  case characters.none =>
    obtain ⟨position, lexed⟩ := Lexer.nextToken_eq_lex stream
    simp only [next, lexed, ahead, TokenSource.left, Option.toList_none, List.nil_append]
    refine ⟨⟨.characters ⟨position, (Lexer.lex stream.rest).2⟩, none⟩, ?_⟩
    cases more : (Lexer.lex stream.rest).1.isEnding
    · rw [Lexer.tokens_of_more more]
      exact ⟨rfl, rfl, rfl⟩
    · rw [Lexer.tokens_of_isEnding more, Lexer.lex_of_isEnding more]
      exact ⟨rfl, Lexer.tokens_nil, rfl⟩
  all_goals exact ⟨⟨_, none⟩, rfl, rfl, rfl⟩

theorem pushBack_eq {scanner : Scanner} (free : scanner.held = none) (token : Token) :
    pushBack token scanner = .ok () { scanner with held := some token } := by
  simp only [pushBack, free]

/-- The scanner stands before the tokens, and only endings come after them. -/
structure IsBefore (scanner : Scanner) (tokens : List Token) : Prop where
  proper : ∀ token ∈ tokens, token.isEnding = false
  ahead : ∃ endings, scanner.ahead = tokens ++ endings ∧ ∀ token ∈ endings, token.isEnding = true

theorem isBefore_ofText (text : String) : (ofText text).IsBefore (Lexer.tokens text.toList) := by
  refine ⟨fun token member => Lexer.isEnding_of_mem_tokens member, [], ?_, by simp⟩
  simp [ahead, ofText, TokenSource.left, CharStream.ofText]

theorem isBefore_ofTokens {tokens : List Token} (proper : ∀ token ∈ tokens, token.isEnding = false) :
    (ofTokens tokens).IsBefore tokens :=
  ⟨proper, [], by simp [ahead, ofTokens, TokenSource.left], by simp⟩

/-- Before a token, the scanner takes it. -/
theorem next_isBefore_cons {scanner : Scanner} {token : Token} {later : List Token}
    (before : scanner.IsBefore (token :: later)) :
    ∃ after, next scanner = .ok token after ∧ after.IsBefore later ∧ after.held = none := by
  obtain ⟨proper, endings, ahead, endingsEnd⟩ := before
  obtain ⟨after, taken, rest, free⟩ := next_eq scanner
  rw [ahead] at taken rest
  exact ⟨after, taken, ⟨fun other member => proper other (List.mem_cons_of_mem _ member), endings, rest, endingsEnd⟩, free⟩

theorem next_isBefore_nil {scanner : Scanner} (before : scanner.IsBefore []) :
    ∃ token after, next scanner = .ok token after ∧ token.isEnding = true ∧ after.IsBefore [] ∧ after.held = none := by
  obtain ⟨_, endings, ahead, endingsEnd⟩ := before
  obtain ⟨after, taken, rest, free⟩ := next_eq scanner
  rw [ahead] at taken rest
  refine ⟨_, after, taken, ?_, ⟨by simp, endings.tail, rest, ?_⟩, free⟩
  · cases endings with
    | nil => rfl
    | cons token later => exact endingsEnd token List.mem_cons_self
  · exact fun token member => endingsEnd token (List.mem_of_mem_tail member)

theorem isBefore_hold {scanner : Scanner} {token : Token} {later : List Token} (before : scanner.IsBefore later)
    (free : scanner.held = none) (more : token.isEnding = false) :
    IsBefore { scanner with held := some token } (token :: later) := by
  obtain ⟨proper, endings, ahead, endingsEnd⟩ := before
  refine ⟨?_, endings, ?_, endingsEnd⟩
  · intro other member
    rcases List.mem_cons.1 member with rfl | member
    · exact more
    · exact proper other member
  · simpa [Scanner.ahead, free] using ahead

theorem isBefore_hold_ending {scanner : Scanner} {token : Token} (before : scanner.IsBefore [])
    (free : scanner.held = none) (ends : token.isEnding = true) :
    IsBefore { scanner with held := some token } [] := by
  obtain ⟨_, endings, ahead, endingsEnd⟩ := before
  refine ⟨by simp, token :: endings, ?_, ?_⟩
  · simpa [Scanner.ahead, free] using ahead
  · intro other member
    rcases List.mem_cons.1 member with rfl | member
    · exact ends
    · exact endingsEnd other member

theorem length_ahead_le_size (scanner : Scanner) : scanner.ahead.length ≤ scanner.size := by
  rcases scanner with ⟨stream | listed, held⟩
  · have := Lexer.length_tokens_le stream.rest
    cases held <;> simp [ahead, TokenSource.left, size] <;> omega
  · cases held <;> simp [ahead, TokenSource.left, size]

theorem length_le_size {scanner : Scanner} {tokens : List Token} (before : scanner.IsBefore tokens) :
    tokens.length ≤ scanner.size := by
  obtain ⟨_, endings, ahead, _⟩ := before
  have counted : tokens.length ≤ scanner.ahead.length := by rw [ahead, List.length_append]; omega
  exact counted.trans scanner.length_ahead_le_size

theorem hasMore_isBefore {scanner : Scanner} {tokens : List Token} (before : scanner.IsBefore tokens) :
    ∃ after, hasMore scanner = .ok (!tokens.isEmpty) after ∧ after.IsBefore tokens := by
  cases tokens with
  | nil =>
    obtain ⟨token, after, taken, ends, rest, free⟩ := next_isBefore_nil before
    refine ⟨{ after with held := some token }, ?_, isBefore_hold_ending rest free ends⟩
    simp only [hasMore, Step.bind_apply, taken, pushBack_eq free, Step.pure_apply, ends, List.isEmpty_nil]
  | cons token later =>
    obtain ⟨after, taken, rest, free⟩ := next_isBefore_cons before
    have more := before.proper token List.mem_cons_self
    refine ⟨{ after with held := some token }, ?_, isBefore_hold rest free more⟩
    simp only [hasMore, Step.bind_apply, taken, pushBack_eq free, Step.pure_apply, more, List.isEmpty_cons]

theorem drain_isBefore {scanner : Scanner} {tokens : List Token} (before : scanner.IsBefore tokens) {bound : Nat}
    (enough : tokens.length < bound) : ∃ after, drain bound scanner = .ok tokens after := by
  induction tokens generalizing scanner bound with
  | nil =>
    obtain ⟨bound, rfl⟩ := Nat.exists_eq_succ_of_ne_zero (Nat.ne_of_gt enough)
    obtain ⟨token, after, taken, ends, _⟩ := next_isBefore_nil before
    exact ⟨after, by simp [drain, Step.bind_apply, taken, ends, Step.pure_apply]⟩
  | cons token later ih =>
    obtain ⟨bound, rfl⟩ := Nat.exists_eq_succ_of_ne_zero (Nat.ne_of_gt (Nat.lt_of_le_of_lt (Nat.zero_le _) enough))
    obtain ⟨after, taken, rest, _⟩ := next_isBefore_cons before
    obtain ⟨last, drained⟩ := ih rest (by simpa using enough)
    have more := before.proper token List.mem_cons_self
    refine ⟨last, ?_⟩
    simp only [drain, Step.bind_apply, taken, more, drained, Step.pure_apply, Bool.false_eq_true, ↓reduceIte]

theorem remaining_isBefore {scanner : Scanner} {tokens : List Token} (before : scanner.IsBefore tokens) :
    ∃ after, remaining scanner = .ok tokens after := by
  have enough : tokens.length < scanner.size + 1 := Nat.lt_succ_of_le (length_le_size before)
  obtain ⟨after, drained⟩ := drain_isBefore before enough
  exact ⟨after, by simp [remaining, Step.bind_apply, Step.get_apply, drained]⟩

/-! ### The tokens before the next ending -/

/-- The tokens ahead, as far as the next ending. -/
def upcoming (scanner : Scanner) : List Token := scanner.ahead.takeWhile fun token => !token.isEnding

theorem IsBefore.upcoming_eq {scanner : Scanner} {tokens : List Token} (before : scanner.IsBefore tokens) :
    scanner.upcoming = tokens := by
  obtain ⟨proper, endings, ahead, endingsEnd⟩ := before
  have all : ∀ token ∈ tokens, (!token.isEnding) = true := fun token member => by simp [proper token member]
  have none : endings.takeWhile (fun token => !token.isEnding) = [] := by
    cases endings with
    | nil => rfl
    | cons token later => exact List.takeWhile_cons_of_neg (by simp [endingsEnd token List.mem_cons_self])
  rw [upcoming, ahead, List.takeWhile_append_of_pos all, none, List.append_nil]

theorem length_upcoming_le_size (scanner : Scanner) : scanner.upcoming.length ≤ scanner.size :=
  (List.takeWhile_prefix _).length_le.trans scanner.length_ahead_le_size

/-- An ending is taken where no token comes before it, and the first of the tokens
    otherwise. -/
theorem next_upcoming (scanner : Scanner) :
    ∃ token after, next scanner = .ok token after ∧ after.held = none ∧
      (token.isEnding = true ∧ scanner.upcoming = [] ∨
        token.isEnding = false ∧ scanner.upcoming = token :: after.upcoming) := by
  obtain ⟨after, taken, rest, free⟩ := next_eq scanner
  refine ⟨_, after, taken, free, ?_⟩
  unfold upcoming
  rw [rest]
  cases listed : scanner.ahead with
  | nil => exact .inl ⟨rfl, rfl⟩
  | cons token later =>
    cases ends : token.isEnding with
    | true => exact .inl ⟨ends, List.takeWhile_cons_of_neg (by simp [ends])⟩
    | false => exact .inr ⟨ends, List.takeWhile_cons_of_pos (by simp [ends])⟩

theorem upcoming_hold {scanner : Scanner} (free : scanner.held = none) (token : Token) :
    upcoming { scanner with held := some token } = if token.isEnding then [] else token :: scanner.upcoming := by
  unfold upcoming ahead
  rw [free]
  cases ends : token.isEnding <;> simp [ends]

theorem hasMore_upcoming (scanner : Scanner) : ∃ after, hasMore scanner = .ok (!scanner.upcoming.isEmpty) after := by
  obtain ⟨token, after, taken, free, ⟨ends, listed⟩ | ⟨more, listed⟩⟩ := next_upcoming scanner
  · refine ⟨{ after with held := some token }, ?_⟩
    simp only [hasMore, Step.bind_apply, taken, pushBack_eq free, Step.pure_apply, ends, listed, List.isEmpty_nil]
  · refine ⟨{ after with held := some token }, ?_⟩
    simp only [hasMore, Step.bind_apply, taken, pushBack_eq free, Step.pure_apply, more, listed, List.isEmpty_cons]

end Scanner

theorem tokenize_eq (text : String) : tokenize text = .ok (Lexer.tokens text.toList) := by
  obtain ⟨after, taken⟩ := Scanner.remaining_isBefore (Scanner.isBefore_ofText text)
  simp [tokenize, Step.isolated, taken]

end LineBasic
