import Mathlib
import LineBasic.Proofs.Text.Trim
import LineBasic.Proofs.Token.Lexed

/-!
The tokens of a text that is put together from two. They are those of the one and
then those of the other, unless a run of letters and digits goes across
(`tokens_append`). So blanks at the ends make no difference (`tokens_trimmed`), and any
blanks between two texts keep their tokens apart (`tokenize_distributes`).
-/
namespace LineBasic

namespace Lexer

/-- The last character of a text and the first of another are not both letters or
    digits. -/
def Apart (text later : List Char) : Prop :=
  ∀ last ∈ text.getLast?, ∀ first ∈ later.head?, last.isAlphanum = true → first.isAlphanum = false

theorem Apart.suffix {text rest later : List Char} (apart : Apart text later) (suffix : rest <:+ text) :
    Apart rest later := by
  intro last isLast
  obtain ⟨before, rfl⟩ := suffix
  refine apart last ?_
  rw [List.getLast?_append, Option.mem_def.1 isLast]
  rfl

theorem apart_nil (text : List Char) : Apart [] text := by
  intro last isLast
  cases isLast

theorem apart_nil_right (text : List Char) : Apart text [] := by
  intro _ _ first isFirst
  cases isFirst

/-- A sign goes together with nothing before it. -/
theorem apart_sign {c : Char} (other : c.isAlphanum = false) (text : List Char) : Apart text [c] := by
  intro _ _ first isFirst _
  obtain rfl : c = first := by simpa using isFirst
  exact other

theorem sign_apart {c : Char} (other : c.isAlphanum = false) (text : List Char) : Apart [c] text := by
  intro last isLast _ _ goes
  obtain rfl : c = last := by simpa using isLast
  rw [other] at goes
  cases goes

/-- Blanks keep what comes before them apart from what comes after. -/
theorem apart_of_blank_before {text later : List Char} (blank : ∀ c ∈ text.getLast?, Text.isBlank c = true) :
    Apart text later := by
  intro last isLast _ _ run
  have separates := blank last isLast
  simp [Text.isBlank_eq_false_of_isAlphanum run] at separates

/-- A run that has started in the first text does not go on in the second. -/
theorem run_append {c : Char} {rest later : List Char} (apart : Apart (c :: rest) later)
    (started : c.isAlphanum = true) :
    (rest ++ later).takeWhile Char.isAlphanum = rest.takeWhile Char.isAlphanum ∧
      (rest ++ later).dropWhile Char.isAlphanum = rest.dropWhile Char.isAlphanum ++ later := by
  by_cases whole : ∀ d ∈ rest, d.isAlphanum = true
  · have ends : ∀ first ∈ later.head?, first.isAlphanum = false := by
      intro first isFirst
      refine apart ((c :: rest).getLast (by simp)) (List.getLast?_eq_some_getLast (by simp)) first isFirst ?_
      rcases List.mem_cons.1 (List.getLast_mem (List.cons_ne_nil c rest)) with same | member
      · rwa [same]
      · exact whole _ member
    rw [List.takeWhile_append_of_pos whole, List.dropWhile_append_of_pos whole, List.takeWhile_eq_self_iff.2 whole,
      List.dropWhile_eq_nil_iff.2 whole]
    cases later with
    | nil => simp
    | cons first later => simp [ends first rfl]
  · have short : (rest.takeWhile Char.isAlphanum).length ≠ rest.length := by
      intro same
      have all := (List.takeWhile_prefix Char.isAlphanum).eq_of_length same
      exact whole (List.takeWhile_eq_self_iff.1 all)
    have more : ¬ (rest.dropWhile Char.isAlphanum).isEmpty = true := by
      rw [List.isEmpty_iff, List.dropWhile_eq_nil_iff]
      exact whole
    rw [List.takeWhile_append, if_neg short, List.dropWhile_append, if_neg more]
    exact ⟨rfl, rfl⟩

/-- The first token of the first text is also that of the whole. -/
theorem lex_append {text later : List Char} (more : (lex text).1.isEnding = false) (apart : Apart text later) :
    lex (text ++ later) = ((lex text).1, (lex text).2 ++ later) := by
  unfold lex at more ⊢
  cases start : text.dropWhile Text.isBlank with
  | nil => simp [start, Token.ending, Token.isEnding] at more
  | cons c rest =>
    have inside : (c :: rest) <:+ text := start ▸ List.dropWhile_suffix Text.isBlank
    have going := run_append (apart.suffix inside)
    rw [List.dropWhile_append, start, if_neg (by simp)]
    dsimp only [List.cons_append]
    split_ifs with letter digit
    · obtain ⟨run, left⟩ := going (by simp [Char.isAlphanum, letter])
      rw [run, left]
    · obtain ⟨run, left⟩ := going (by simp [Char.isAlphanum, digit])
      rw [run, left]
    · rfl

theorem tokens_append {text later : List Char} (apart : Apart text later) :
    tokens (text ++ later) = tokens text ++ tokens later := by
  induction text using tokens.induct with
  | case1 text more ih =>
    have first := lex_append more apart
    have moreWhole : (lex (text ++ later)).1.isEnding = false := by rw [first]; exact more
    have inside : (lex text).2 <:+ text :=
      (toList_lex_append text ▸ List.suffix_append _ _ : (lex text).2 <:+ text.dropWhile Text.isBlank).trans
        (List.dropWhile_suffix Text.isBlank)
    rw [tokens_of_more moreWhole, tokens_of_more more, first, ih (apart.suffix inside), List.cons_append]
  | case2 text ends =>
    have ended : (lex text).1.isEnding = true := by simpa using ends
    have blank : text.dropWhile Text.isBlank = [] := by
      have whole := toList_lex_append text
      rw [lex_of_isEnding ended] at whole
      exact whole.symm
    have skipped : lex (text ++ later) = lex later := by
      unfold lex
      rw [List.dropWhile_append_of_pos (List.dropWhile_eq_nil_iff.1 blank)]
    rw [tokens_of_isEnding ended, List.nil_append]
    cases more : (lex later).1.isEnding with
    | true => rw [tokens_of_isEnding more, tokens_of_isEnding (by rw [skipped]; exact more)]
    | false => rw [tokens_of_more more, tokens_of_more (by rw [skipped]; exact more), skipped]

theorem tokens_of_blank {text : List Char} (blank : ∀ c ∈ text, Text.isBlank c = true) : tokens text = [] := by
  refine tokens_of_isEnding ?_
  rw [lex, List.dropWhile_eq_nil_iff.2 blank]
  rfl

theorem isBlank_of_tokens_eq_nil {text : List Char} (nothing : tokens text = []) : ∀ c ∈ text, Text.isBlank c = true := by
  have ends : (lex text).1.isEnding = true := by
    by_contra more
    rw [tokens_of_more (by simpa using more)] at nothing
    cases nothing
  have whole := toList_lex_append text
  rw [lex_of_isEnding ends] at whole
  exact List.dropWhile_eq_nil_iff.1 whole.symm

/-- Blanks keep texts apart. -/
theorem apart_of_blank {text later : List Char} (blank : ∀ c ∈ later.head?, Text.isBlank c = true) :
    Apart text later := by
  intro last _ first isFirst _
  have separates := blank first isFirst
  cases run : first.isAlphanum with
  | false => rfl
  | true => simp [Text.isBlank_eq_false_of_isAlphanum run] at separates

theorem tokens_cons_of_isBlank {c : Char} (blank : Text.isBlank c = true) (later : List Char) :
    tokens (c :: later) = tokens later := by
  have skipped : lex (c :: later) = lex later := by
    unfold lex
    rw [List.dropWhile_cons_of_pos blank]
  cases more : (lex later).1.isEnding with
  | true => rw [tokens_of_isEnding more, tokens_of_isEnding (by rw [skipped]; exact more)]
  | false => rw [tokens_of_more more, tokens_of_more (by rw [skipped]; exact more), skipped]

/-- A sign is a token by itself, whatever comes after it. -/
theorem tokens_cons_of_sign {c : Char} (other : c.isAlphanum = false) (shows : Text.isBlank c = false)
    (later : List Char) : tokens (c :: later) = ⟨.operator, String.ofList [c]⟩ :: tokens later := by
  simp only [Char.isAlphanum, Bool.or_eq_false_iff] at other
  have first : lex (c :: later) = (⟨.operator, String.ofList [c]⟩, later) := by
    unfold lex
    rw [List.dropWhile_cons_of_neg (by simp [shows])]
    simp [other]
  rw [tokens_of_more (by rw [first]; rfl), first]

/-- A text without the blanks at its ends has the same tokens. -/
theorem tokens_trimmed (text : List Char) : tokens (Text.trimmed text) = tokens text := by
  obtain ⟨before, after, split, blankBefore, blankAfter⟩ := Text.exists_eq_append_trimmed text
  have apartAfter : Apart (Text.trimmed text) after :=
    apart_of_blank fun c first => blankAfter c (List.mem_of_mem_head? first)
  have apartBefore : Apart before (Text.trimmed text ++ after) :=
    apart_of_blank_before fun c last => blankBefore c (List.mem_of_mem_getLast? last)
  conv_rhs => rw [split]
  rw [tokens_append apartBefore, tokens_append apartAfter, tokens_of_blank blankBefore, tokens_of_blank blankAfter,
    List.nil_append, List.append_nil]

theorem tokens_trim (text : String) : tokens (Text.trim text).toList = tokens text.toList := by
  rw [Text.trim, String.toList_ofList, tokens_trimmed]

/-- A text without blanks at its ends starts with its first token. -/
theorem starts_of_tokens_cons {text : List Char} {first : Token} {later : List Token} (bare : Text.trimmed text = text)
    (listed : tokens text = first :: later) : ∃ rest, text = first.text.toList ++ rest ∧ tokens rest = later := by
  have more : (lex text).1.isEnding = false := by
    by_contra ends
    rw [tokens_of_isEnding (by simpa using ends)] at listed
    cases listed
  have whole := toList_lex_append text
  have started : text.dropWhile Text.isBlank = text := by rw [← Text.trimStart, ← bare, Text.trimStart_trimmed]
  rw [tokens_of_more more, List.cons.injEq] at listed
  rw [started, listed.1] at whole
  exact ⟨_, whole.symm, listed.2⟩

/-- A text that is one token between blanks is that token without them. -/
theorem trimmed_of_tokens_singleton {text : List Char} {token : Token} (listed : tokens text = [token]) :
    Text.trimmed text = token.text.toList := by
  rw [← tokens_trimmed] at listed
  obtain ⟨after, whole, others⟩ := starts_of_tokens_cons (Text.trimmed_trimmed text) listed
  rcases List.eq_nil_or_concat' after with rfl | ⟨before, last, rfl⟩
  · rw [whole, List.append_nil]
  · have blank := isBlank_of_tokens_eq_nil others last (by simp)
    have shows := Text.getLast?_trimmed text last (by simp [whole])
    rw [blank] at shows
    cases shows

theorem eq_of_tokens_singleton {text : String} {token : Token} (bare : Text.trimmed text.toList = text.toList)
    (listed : tokens text.toList = [token]) : text = token.text :=
  String.toList_injective (bare.symm.trans (trimmed_of_tokens_singleton listed))

/-- A text that is nothing but blanks, and has none at its ends, is empty. -/
theorem eq_nil_of_tokens_eq_nil {text : List Char} (bare : Text.trimmed text = text) (nothing : tokens text = []) :
    text = [] := by
  cases text with
  | nil => rfl
  | cons c rest =>
    have blank := isBlank_of_tokens_eq_nil nothing c List.mem_cons_self
    have shows := Text.head?_trimmed (c :: rest) c (by rw [bare]; rfl)
    rw [blank] at shows
    cases shows

/-- Only what starts with a digit starts with a numeral. -/
theorem isDigit_of_tokens_numeral {text : List Char} {numeral : String} {later : List Token}
    (bare : Text.trimmed text = text) (listed : tokens text = ⟨.number, numeral⟩ :: later) :
    ∃ c rest, text = c :: rest ∧ c.isDigit = true := by
  have lexed : Token.Lexed ⟨.number, numeral⟩ := lexed_of_mem_tokens (listed ▸ List.mem_cons_self)
  obtain ⟨after, whole, _⟩ := starts_of_tokens_cons bare listed
  cases lexed with
  | @numeral first rest digit run =>
    rw [String.toList_ofList, List.cons_append] at whole
    exact ⟨first, _, whole, digit⟩

/-- A space parts a token from what follows. -/
theorem tokens_lexed_append {token : Token} (lexed : token.Lexed) (later : List Char) :
    tokens (token.text.toList ++ ' ' :: later) = token :: tokens later := by
  have blank : Text.isBlank ' ' = true := by decide
  rw [tokens_append (apart_of_blank (by simp [blank])), tokens_of_lexed lexed, tokens_cons_of_isBlank blank,
    List.singleton_append]

theorem tokens_keyword (keyword : Keyword) (text : List Char) :
    tokens (keyword.word.toList ++ ' ' :: text) = ⟨.word, keyword.word⟩ :: tokens text := by
  have lexed : Token.Lexed ⟨.word, keyword.word⟩ := by
    have listed : tokens keyword.word.toList = [⟨.word, keyword.word⟩] := by cases keyword <;> decide +kernel
    exact lexed_of_mem_tokens (listed ▸ List.mem_cons_self)
  exact tokens_lexed_append lexed text

/-- Between spaces, tokens stay what they are. -/
theorem tokens_intercalate {listed : List Token} (lexed : ∀ token ∈ listed, token.Lexed) :
    tokens ([' '].intercalate (listed.map fun token => token.text.toList)) = listed := by
  induction listed with
  | nil => exact tokens_nil
  | cons token later ih =>
    obtain ⟨first, others⟩ := List.forall_mem_cons.1 lexed
    cases later with
    | nil => rw [List.map_singleton, List.intercalate_singleton, tokens_of_lexed first]
    | cons next later =>
      have rest := ih others
      rw [List.map_cons] at rest
      rw [List.map_cons, List.map_cons, List.intercalate_cons_cons, List.append_assoc, List.singleton_append,
        tokens_lexed_append first, rest]

/-- A text between blanks, or put where no run of letters and digits goes across, has its
    tokens in the whole. -/
theorem tokens_append_blank {text between later : List Char} (blank : ∀ c ∈ between, Text.isBlank c = true)
    (cut : between = [] → Apart text later) : tokens (text ++ between ++ later) = tokens text ++ tokens later := by
  have apart : Apart text between := apart_of_blank fun c first => blank c (List.mem_of_mem_head? first)
  have apartAfter : Apart (text ++ between) later := by
    by_cases nothing : between = []
    · rw [nothing, List.append_nil]
      exact cut nothing
    · refine apart_of_blank_before fun c last => blank c (List.mem_of_getLast? ?_)
      rwa [List.getLast?_append_of_ne_nil _ nothing] at last
  rw [tokens_append apartAfter, tokens_append apart, tokens_of_blank blank, List.append_nil]

end Lexer

/-- The tokens of two texts with blanks between them are those of the one and then those
    of the other, and no blanks are needed where not both a letter or digit ends the one
    and one begins the other. So a text may be replaced by its tokens with spaces between
    them. -/
theorem tokenize_distributes :
    (∀ left between right : String, (∀ c ∈ between.toList, Text.isBlank c = true) →
      (between ≠ "" ∨ left = "" ∨ right = "" ∨
        ¬ ∃ last ∈ left.toList.getLast?, ∃ first ∈ right.toList.head?,
          last.isAlphanum = true ∧ first.isAlphanum = true) →
      ∃ before after, tokenize left = .ok before ∧ tokenize right = .ok after ∧
        tokenize (left ++ between ++ right) = .ok (before ++ after)) ∧
    ∀ text, ∃ listed, tokenize text = .ok listed ∧
      tokenize (" ".intercalate (listed.map Token.text)) = .ok listed := by
  refine ⟨fun left between right blank cut => ?_, fun text => ?_⟩
  · have apart : between.toList = [] → Lexer.Apart left.toList right.toList := by
      intro nothing last isLast first isFirst run
      by_contra goes
      rcases cut with some | rfl | rfl | free
      · exact some (by simpa using nothing)
      · cases isLast
      · cases isFirst
      · exact free ⟨last, isLast, first, isFirst, run, by simpa using goes⟩
    refine ⟨_, _, tokenize_eq left, tokenize_eq right, ?_⟩
    rw [tokenize_eq, String.toList_append, String.toList_append, Lexer.tokens_append_blank blank apart]
  · have joined : (" ".intercalate ((Lexer.tokens text.toList).map Token.text)).toList =
        [' '].intercalate ((Lexer.tokens text.toList).map fun token => token.text.toList) := by
      rw [String.toList_intercalate, List.map_map]
      rfl
    refine ⟨_, tokenize_eq text, ?_⟩
    rw [tokenize_eq, joined, Lexer.tokens_intercalate fun token => Lexer.lexed_of_mem_tokens]

/-- A word is cut off from a numeral by a blank of another script, and needs none before
    a sign. -/
theorem tokenize_distributes_numeral :
    (∀ c ∈ "\u3000".toList, Text.isBlank c = true) ∧
      tokenize ("12ab" ++ "\u3000" ++ "x2") = .ok [⟨.number, "12ab"⟩, ⟨.word, "x2"⟩] ∧
      tokenize ("12ab" ++ "" ++ "=x2") = .ok [⟨.number, "12ab"⟩, ⟨.operator, "="⟩, ⟨.word, "x2"⟩] := by
  have blank : ∀ c ∈ "\u3000".toList, Text.isBlank c = true := by
    intro c member
    obtain rfl : c = '\u3000' := by simpa using member
    decide
  have cut : ¬ ∃ last ∈ "12ab".toList.getLast?, ∃ first ∈ "=x2".toList.head?,
      last.isAlphanum = true ∧ first.isAlphanum = true := by
    rintro ⟨last, _, first, isFirst, _, goes⟩
    obtain rfl : '=' = first := by simpa using isFirst
    cases goes
  have first : tokenize "12ab" = .ok [⟨.number, "12ab"⟩] := by decide +kernel
  have word : tokenize "x2" = .ok [⟨.word, "x2"⟩] := by decide +kernel
  have signed : tokenize "=x2" = .ok [⟨.operator, "="⟩, ⟨.word, "x2"⟩] := by decide +kernel
  refine ⟨blank, ?_, ?_⟩
  · obtain ⟨before, after, one, other, whole⟩ := tokenize_distributes.1 "12ab" "\u3000" "x2" blank (.inl (by decide))
    rw [first] at one
    rw [word] at other
    cases one
    cases other
    exact whole
  · obtain ⟨before, after, one, other, whole⟩ :=
      tokenize_distributes.1 "12ab" "" "=x2" (by simp) (.inr (.inr (.inr cut)))
    rw [first] at one
    rw [signed] at other
    cases one
    cases other
    exact whole

end LineBasic
