import LineBasic.Text.Blank
import LineBasic.Token.Basic
import LineBasic.Token.Stream

/-!
Reading one token from a stream of characters. Blanks before it are skipped. A
run of letters and digits is one token, and so is any other character by itself.
At the end of the characters the token is the ending, however often it is asked
for. Main statements: no character is taken that is not there
(`nextToken_eq_lex`), and a token other than the ending shortens the stream
(`length_lex_lt`).
-/
namespace LineBasic.Lexer

/-- Takes the next token from the stream. -/
def nextToken : Step CharStream Token := do
  let _ ← CharStream.takeRun Text.isBlank
  match (← get).peek with
  | none => return Token.ending
  | some c =>
    if c.isAlpha then
      let run ← CharStream.takeRun Char.isAlphanum
      return ⟨.word, String.ofList run⟩
    else if c.isDigit then
      let run ← CharStream.takeRun Char.isAlphanum
      return ⟨.number, String.ofList run⟩
    else
      let sign ← CharStream.next
      return ⟨.operator, String.ofList [sign]⟩

/-- The first token of some characters, and the characters after it. -/
def lex (text : List Char) : Token × List Char :=
  match text.dropWhile Text.isBlank with
  | [] => (Token.ending, [])
  | c :: rest =>
    if c.isAlpha then (⟨.word, String.ofList (c :: rest.takeWhile Char.isAlphanum)⟩, rest.dropWhile Char.isAlphanum)
    else if c.isDigit then
      (⟨.number, String.ofList (c :: rest.takeWhile Char.isAlphanum)⟩, rest.dropWhile Char.isAlphanum)
    else (⟨.operator, String.ofList [c]⟩, rest)

/-- Taking a token never fails, and takes the first token of what is left. -/
theorem nextToken_eq_lex (stream : CharStream) :
    ∃ position, nextToken stream = .ok (lex stream.rest).1 ⟨position, (lex stream.rest).2⟩ := by
  simp only [nextToken, lex, Step.bind_apply, Step.get_apply, CharStream.takeRun, CharStream.peek]
  cases stream.rest.dropWhile Text.isBlank with
  | nil => exact ⟨_, rfl⟩
  | cons c rest =>
    have either : c.isAlphanum = (c.isAlpha || c.isDigit) := rfl
    simp only [List.head?_cons]
    by_cases letter : c.isAlpha = true
    · simp [letter, either, Step.bind_apply, CharStream.takeRun, Step.pure_apply]
    · by_cases digit : c.isDigit = true
      · simp [letter, digit, either, Step.bind_apply, CharStream.takeRun, Step.pure_apply]
      · simp [letter, digit, Step.bind_apply, CharStream.next, Step.pure_apply]

/-- A token other than the ending shortens what is left. -/
theorem length_lex_lt {text : List Char} (more : (lex text).1.isEnding = false) :
    (lex text).2.length < text.length := by
  have skipped := (List.dropWhile_suffix (p := Text.isBlank) (l := text)).length_le
  unfold lex at more ⊢
  cases start : text.dropWhile Text.isBlank with
  | nil => simp [start, Token.ending, Token.isEnding] at more
  | cons c rest =>
    have run := (List.dropWhile_suffix (p := Char.isAlphanum) (l := rest)).length_le
    simp only [start, List.length_cons] at skipped ⊢
    split
    · exact Nat.lt_of_le_of_lt run skipped
    · split
      · exact Nat.lt_of_le_of_lt run skipped
      · exact skipped

end LineBasic.Lexer
