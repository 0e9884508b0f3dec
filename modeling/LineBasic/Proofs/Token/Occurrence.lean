import Mathlib
import LineBasic.Proofs.Token.Concatenation

/-!
The tokens of a text by where they occur in it. A longest run of letters and digits is
a word or a numeral, and any other character that is not blank is a sign (`Occurs`).
The tokens of a text are those that occur in it, in the order of their places
(`tokenize_lists_occurring`); where a text is cut so that no run goes across, each part lists its
own (`Lists.append`).
-/
namespace LineBasic

namespace Lexer

/-- A run of letters and digits between what stands before it and after it, which goes on
    on neither side. -/
structure LongestRun (before run after : List Char) : Prop where
  some : run ≠ []
  all : ∀ c ∈ run, c.isAlphanum = true
  starts : ∀ c ∈ before.getLast?, c.isAlphanum = false
  ends : ∀ c ∈ after.head?, c.isAlphanum = false

/-- The token occurs in the text, with so many characters before it. -/
inductive Occurs : List Char → Nat → Token → Prop
  | word {before after rest : List Char} {first : Char} (run : LongestRun before (first :: rest) after)
      (letter : first.isAlpha = true) :
      Occurs (before ++ (first :: rest ++ after)) before.length ⟨.word, String.ofList (first :: rest)⟩
  | numeral {before after rest : List Char} {first : Char} (run : LongestRun before (first :: rest) after)
      (digit : first.isDigit = true) :
      Occurs (before ++ (first :: rest ++ after)) before.length ⟨.number, String.ofList (first :: rest)⟩
  | sign {before after : List Char} {c : Char} (other : c.isAlphanum = false) (shows : Text.isBlank c = false) :
      Occurs (before ++ c :: after) before.length ⟨.operator, String.ofList [c]⟩

/-- The tokens are all that occur in the text, in the order of their places. -/
def Lists (text : List Char) (listed : List Token) : Prop :=
  ∃ places : List (Nat × Token), places.map Prod.snd = listed ∧
    places.Pairwise (fun place later => place.1 < later.1) ∧
    ∀ start token, (start, token) ∈ places ↔ Occurs text start token

variable {text later : List Char} {start : Nat} {token : Token}

/-! ### Cuts that no run goes across -/

theorem Apart.of_append {rest : List Char} (apart : Apart text (later ++ rest)) : Apart text later :=
  fun last isLast first isFirst => apart last isLast first (List.mem_head?_append_of_mem_head? isFirst)

theorem Apart.append_right {rest : List Char} (apart : Apart text later) (onward : later = [] → Apart text rest) :
    Apart text (later ++ rest) := by
  cases later with
  | nil => exact onward rfl
  | cons c later => exact fun last isLast first isFirst => apart last isLast first isFirst

theorem Apart.append_left {before : List Char} (apart : Apart text later) (backward : text = [] → Apart before later) :
    Apart (before ++ text) later := by
  by_cases nothing : text = []
  · rw [nothing, List.append_nil]
    exact backward nothing
  · intro last isLast
    rw [List.getLast?_append_of_ne_nil _ nothing] at isLast
    exact apart last isLast

theorem longestRun_iff {before run after : List Char} :
    LongestRun before run after ↔
      run ≠ [] ∧ (∀ c ∈ run, c.isAlphanum = true) ∧ Apart before run ∧ Apart run after := by
  constructor
  · rintro ⟨some, all, starts, ends⟩
    refine ⟨some, all, fun last isLast _ _ goes => ?_, fun _ _ first isFirst _ => ends first isFirst⟩
    rw [starts last isLast] at goes
    cases goes
  · rintro ⟨some, all, apart, apartAfter⟩
    refine ⟨some, all, fun last isLast => ?_, fun first isFirst => ?_⟩
    · by_contra goes
      have stops := apart last isLast _ (List.head?_eq_some_head some) (by simpa using goes)
      rw [all _ (List.head_mem some)] at stops
      cases stops
    · exact apartAfter _ (List.getLast?_eq_some_getLast some) first isFirst (all _ (List.getLast_mem some))

theorem lexed_ne_nil (lexed : token.Lexed) : token.text.toList ≠ [] := by
  cases lexed <;> simp

/-- A token cannot be cut so that no run goes across. -/
theorem lexed_uncut {before after : List Char} (lexed : token.Lexed) (split : token.text.toList = before ++ after)
    (apart : Apart before after) : before = [] ∨ after = [] := by
  by_cases kind : token.kind = .operator
  · cases lexed with
    | word => cases kind
    | numeral => cases kind
    | sign other shows =>
      rw [String.toList_ofList, eq_comm, List.append_eq_singleton_iff] at split
      rcases split with ⟨nothing, _⟩ | ⟨_, nothing⟩
      · exact .inl nothing
      · exact .inr nothing
  · have all := lexed.isAlphanum kind
    rw [split] at all
    by_contra both
    obtain ⟨some, someAfter⟩ := not_or.1 both
    have stops := apart _ (List.getLast?_eq_some_getLast some) _ (List.head?_eq_some_head someAfter)
      (all _ (List.mem_append_left _ (List.getLast_mem some)))
    rw [all _ (List.mem_append_right _ (List.head_mem someAfter))] at stops
    cases stops

theorem lexed_eq_of_text {other : Token} (lexed : token.Lexed) (lexed' : other.Lexed)
    (same : token.text = other.text) : token = other := by
  have one := tokens_of_lexed lexed
  rw [same, tokens_of_lexed lexed'] at one
  exact (List.singleton_inj.1 one).symm

/-! ### Where tokens occur -/

/-- A token occurs where its characters are, if no run of letters and digits goes across
    one of its ends. -/
theorem occurs_iff :
    Occurs text start token ↔
      token.Lexed ∧ ∃ before after, text = before ++ (token.text.toList ++ after) ∧ before.length = start ∧
        Apart before token.text.toList ∧ Apart token.text.toList after := by
  constructor
  · intro occurs
    cases occurs with
    | @word before after rest first run letter =>
      obtain ⟨_, all, apart, apartAfter⟩ := longestRun_iff.1 run
      refine ⟨.word letter (List.forall_mem_cons.1 all).2, before, after, ?_, rfl, ?_⟩
      · rw [String.toList_ofList]
      · rw [String.toList_ofList]
        exact ⟨apart, apartAfter⟩
    | @numeral before after rest first run digit =>
      obtain ⟨_, all, apart, apartAfter⟩ := longestRun_iff.1 run
      refine ⟨.numeral digit (List.forall_mem_cons.1 all).2, before, after, ?_, rfl, ?_⟩
      · rw [String.toList_ofList]
      · rw [String.toList_ofList]
        exact ⟨apart, apartAfter⟩
    | @sign before after c other shows =>
      refine ⟨.sign other shows, before, after, ?_, rfl, ?_⟩
      · rw [String.toList_ofList, List.singleton_append]
      · rw [String.toList_ofList]
        exact ⟨apart_sign other before, sign_apart other after⟩
  · rintro ⟨lexed, before, after, rfl, rfl, apart, apartAfter⟩
    cases lexed with
    | word letter run =>
      have all := (Token.Lexed.word letter run).isAlphanum (by simp)
      rw [String.toList_ofList] at all apart apartAfter ⊢
      exact .word (longestRun_iff.2 ⟨List.cons_ne_nil _ _, all, apart, apartAfter⟩) letter
    | numeral digit run =>
      have all := (Token.Lexed.numeral digit run).isAlphanum (by simp)
      rw [String.toList_ofList] at all apart apartAfter ⊢
      exact .numeral (longestRun_iff.2 ⟨List.cons_ne_nil _ _, all, apart, apartAfter⟩) digit
    | sign other shows =>
      rw [String.toList_ofList, List.singleton_append]
      exact .sign other shows

theorem Occurs.lt_length (occurs : Occurs text start token) : start < text.length := by
  obtain ⟨lexed, before, after, rfl, rfl, _⟩ := occurs_iff.1 occurs
  have some := List.length_pos_of_ne_nil (lexed_ne_nil lexed)
  rw [List.length_append, List.length_append]
  omega

/-- What occurs in two texts together occurs in one of them. -/
theorem occurs_append (apart : Apart text later) :
    Occurs (text ++ later) start token ↔
      Occurs text start token ∨ ∃ place, start = text.length + place ∧ Occurs later place token := by
  simp only [occurs_iff]
  constructor
  · rintro ⟨lexed, before, after, whole, rfl, apartBefore, apartAfter⟩
    rcases List.append_eq_append_iff.1 whole with ⟨between, rfl, split⟩ | ⟨between, rfl, split⟩
    · refine .inr ⟨between.length, by rw [List.length_append], lexed, between, after, split, rfl, ?_, apartAfter⟩
      exact apartBefore.suffix (List.suffix_append text between)
    · rcases List.append_eq_append_iff.1 split with ⟨rest, rfl, rfl⟩ | ⟨rest, shown, rfl⟩
      · exact .inl ⟨lexed, before, rest, rfl, rfl, apartBefore, apartAfter.of_append⟩
      · have cut : Apart between rest := (apart.suffix (List.suffix_append before between)).of_append
        rcases lexed_uncut lexed shown cut with rfl | rfl
        · rw [List.nil_append] at shown
          refine .inr ⟨0, by simp, lexed, [], after, by rw [shown, List.nil_append], rfl, apart_nil _, apartAfter⟩
        · rw [List.append_nil] at shown
          refine .inl ⟨lexed, before, [], by rw [shown, List.append_nil], rfl, apartBefore, ?_⟩
          exact (show Apart _ ([] ++ after) from apartAfter).of_append
  · rintro (⟨lexed, before, after, rfl, rfl, apartBefore, apartAfter⟩ |
      ⟨_, rfl, lexed, before, after, rfl, rfl, apartBefore, apartAfter⟩)
    · refine ⟨lexed, before, after ++ later, by simp, rfl, apartBefore, apartAfter.append_right ?_⟩
      rintro rfl
      exact apart.suffix (by simp)
    · refine ⟨lexed, text ++ before, after, by simp, List.length_append, apartBefore.append_left ?_, apartAfter⟩
      rintro rfl
      rw [List.nil_append] at apart
      exact apart.of_append

/-! ### Lists of all tokens that occur -/

theorem Lists.append {listed others : List Token} (lists : Lists text listed) (listsLater : Lists later others)
    (apart : Apart text later) : Lists (text ++ later) (listed ++ others) := by
  obtain ⟨places, rfl, ascending, occurs⟩ := lists
  obtain ⟨onward, rfl, ascending', occurs'⟩ := listsLater
  refine ⟨places ++ onward.map fun place => (text.length + place.1, place.2), ?_, ?_, fun start token => ?_⟩
  · rw [List.map_append, List.map_map]
    rfl
  · refine List.pairwise_append.2 ⟨ascending, List.pairwise_map.2 (ascending'.imp fun less => by omega), ?_⟩
    intro place member shifted moved
    obtain ⟨other, _, rfl⟩ := List.mem_map.1 moved
    have inside := ((occurs place.1 place.2).1 member).lt_length
    dsimp only
    omega
  · rw [occurs_append apart, List.mem_append, occurs, List.mem_map]
    refine or_congr_right ⟨?_, ?_⟩
    · rintro ⟨⟨place, other⟩, member, same⟩
      cases same
      exact ⟨place, rfl, (occurs' place other).1 member⟩
    · rintro ⟨place, rfl, found⟩
      exact ⟨(place, token), (occurs' place token).2 found, rfl⟩

theorem lists_of_blank (blank : ∀ c ∈ text, Text.isBlank c = true) : Lists text [] := by
  refine ⟨[], rfl, List.Pairwise.nil, fun start token => ⟨fun member => absurd member List.not_mem_nil, fun occurs => ?_⟩⟩
  obtain ⟨lexed, before, after, rfl, _⟩ := occurs_iff.1 occurs
  have shown := List.head_mem (lexed_ne_nil lexed)
  have separates := blank _ (List.mem_append_right before (List.mem_append_left after shown))
  rw [lexed.isBlank_eq_false _ shown] at separates
  cases separates

/-- In its own characters a token occurs alone. -/
theorem lists_of_lexed (lexed : token.Lexed) : Lists token.text.toList [token] := by
  refine ⟨[(0, token)], rfl, List.pairwise_singleton _ _, fun start other => ?_⟩
  rw [List.mem_singleton, Prod.mk.injEq, occurs_iff]
  constructor
  · rintro ⟨rfl, rfl⟩
    exact ⟨lexed, [], [], by simp, rfl, apart_nil _, apart_nil_right _⟩
  · rintro ⟨lexed', before, after, shown, rfl, apart, apartAfter⟩
    have some : other.text.toList ++ after ≠ [] := List.append_ne_nil_of_left_ne_nil (lexed_ne_nil lexed') after
    have cut : Apart before (other.text.toList ++ after) :=
      apart.append_right fun nothing => absurd nothing (lexed_ne_nil lexed')
    obtain rfl := (lexed_uncut lexed shown cut).resolve_right some
    rw [List.nil_append] at shown
    obtain rfl := (lexed_uncut lexed shown apartAfter).resolve_left (lexed_ne_nil lexed')
    rw [List.append_nil] at shown
    exact ⟨rfl, lexed_eq_of_text lexed' lexed (String.toList_injective shown.symm)⟩

/-- No run goes from the first token of a text across its end. -/
theorem apart_lex (text : List Char) : Apart (lex text).1.text.toList (lex text).2 := by
  have stops : ∀ (run rest : List Char), Apart run (rest.dropWhile Char.isAlphanum) := by
    intro run rest _ _ first isFirst _
    have shows := List.head?_dropWhile_not Char.isAlphanum rest
    rw [Option.mem_def.1 isFirst] at shows
    simpa using shows
  unfold lex
  cases text.dropWhile Text.isBlank with
  | nil => exact apart_nil _
  | cons c rest =>
    dsimp only
    split_ifs with letter digit
    · exact stops _ rest
    · exact stops _ rest
    · rw [String.toList_ofList]
      exact sign_apart (by simp [Char.isAlphanum, letter, digit]) rest

theorem lists_tokens (text : List Char) : Lists text (tokens text) := by
  induction text using tokens.induct with
  | case1 text more ih =>
    have blank : ∀ c ∈ text.takeWhile Text.isBlank, Text.isBlank c = true := List.all_eq_true.1 List.all_takeWhile
    have apart : Apart (text.takeWhile Text.isBlank) ((lex text).1.text.toList ++ (lex text).2) :=
      apart_of_blank_before fun c isLast => blank c (List.mem_of_getLast? isLast)
    have parts := (lists_of_blank blank).append ((lists_of_lexed (lexed_lex more)).append ih (apart_lex text)) apart
    rwa [toList_lex_append, List.takeWhile_append_dropWhile, List.nil_append, List.singleton_append,
      ← tokens_of_more more] at parts
  | case2 text ends =>
    have nothing := tokens_of_isEnding (by simpa using ends)
    rw [nothing]
    exact lists_of_blank (isBlank_of_tokens_eq_nil nothing)

theorem Lists.unique {listed others : List Token} (lists : Lists text listed) (lists' : Lists text others) :
    listed = others := by
  obtain ⟨places, rfl, ascending, occurs⟩ := lists
  obtain ⟨places', rfl, ascending', occurs'⟩ := lists'
  have distinct : ∀ {places : List (Nat × Token)}, places.Pairwise (fun place later => place.1 < later.1) →
      places.Nodup := by
    intro places ascending
    refine ascending.imp fun less same => ?_
    rw [same] at less
    exact absurd less (lt_irrefl _)
  have same : places.Perm places' := by
    rw [List.perm_ext_iff_of_nodup (distinct ascending) (distinct ascending')]
    exact fun place => (occurs place.1 place.2).trans (occurs' place.1 place.2).symm
  rw [List.Perm.eq_of_pairwise (fun _ _ _ _ less more => absurd less more.asymm) ascending ascending' same]

/-- The characters of the tokens, one after another, are those of the text that are not
    blank. -/
theorem flatMap_tokens (text : List Char) :
    (tokens text).flatMap (fun token => token.text.toList) = text.filter fun c => !Text.isBlank c := by
  have skipped : ∀ text : List Char,
      (text.dropWhile Text.isBlank).filter (fun c => !Text.isBlank c) = text.filter fun c => !Text.isBlank c := by
    intro text
    conv_rhs => rw [← List.takeWhile_append_dropWhile (p := Text.isBlank) (l := text), List.filter_append]
    have none : (text.takeWhile Text.isBlank).filter (fun c => !Text.isBlank c) = [] := by
      rw [List.filter_eq_nil_iff]
      intro c member
      simp [List.all_eq_true.1 List.all_takeWhile c member]
    rw [none, List.nil_append]
  induction text using tokens.induct with
  | case1 text more ih =>
    have kept : (lex text).1.text.toList.filter (fun c => !Text.isBlank c) = (lex text).1.text.toList := by
      rw [List.filter_eq_self]
      intro c member
      simp [(lexed_lex more).isBlank_eq_false c member]
    rw [tokens_of_more more, List.flatMap_cons, ih, ← skipped text, ← toList_lex_append, List.filter_append, kept]
  | case2 text ends =>
    have nothing := tokens_of_isEnding (by simpa using ends)
    rw [nothing, eq_comm, List.flatMap_nil, List.filter_eq_nil_iff]
    intro c member
    simp [isBlank_of_tokens_eq_nil nothing c member]

end Lexer

/-- Tokenising never fails. It lists the longest runs of letters and digits of a text and
    its other characters that are not blank, all of them in the order of their places, and
    nothing else. So the text without its blanks can be had back, and no ending is
    listed. -/
theorem tokenize_lists_occurring (text : String) :
    ∃ listed, tokenize text = .ok listed ∧
      (∀ others, Lexer.Lists text.toList others ↔ others = listed) ∧
      (listed.flatMap fun token => token.text.toList) = text.toList.filter (fun c => !Text.isBlank c) ∧
      ∀ token ∈ listed, token.kind ≠ .ending := by
  have lists := Lexer.lists_tokens text.toList
  refine ⟨_, tokenize_eq text, fun others => ⟨fun also => also.unique lists, ?_⟩, Lexer.flatMap_tokens _, ?_⟩
  · rintro rfl
    exact lists
  · intro token member kind
    have more := Lexer.isEnding_of_mem_tokens member
    rw [Token.isEnding_iff.2 kind] at more
    cases more

end LineBasic
