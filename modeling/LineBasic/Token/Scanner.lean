import LineBasic.Token.Lexer

/-!
A scanner hands out the tokens of a line one after another and takes back the
last one. It reads either the characters of a text, as far as they are needed, or
a list of tokens that was made before; a list may hold endings, which are handed
out like the rest. After the last token it hands out endings for ever.
-/
namespace LineBasic

/-- Where tokens come from. -/
inductive TokenSource where
  | characters (stream : CharStream)
  | tokens (tokens : List Token)
  deriving DecidableEq, Repr

/-- A source of tokens, and the token that was taken back. -/
structure Scanner where
  source : TokenSource
  held : Option Token
  deriving DecidableEq, Repr

namespace Scanner

def ofText (text : String) : Scanner := ⟨.characters (CharStream.ofText text 0), none⟩

def ofTokens (tokens : List Token) : Scanner := ⟨.tokens tokens, none⟩

/-- Takes the next token: the held one first. -/
def next : Step Scanner Token := fun scanner =>
  match scanner with
  | ⟨source, some token⟩ => .ok token ⟨source, none⟩
  | ⟨.characters stream, none⟩ =>
    match Lexer.nextToken stream with
    | .ok token after => .ok token ⟨.characters after, none⟩
    | .error stop after => .error stop ⟨.characters after, none⟩
  | ⟨.tokens [], none⟩ => .ok Token.ending ⟨.tokens [], none⟩
  | ⟨.tokens (token :: after), none⟩ => .ok token ⟨.tokens after, none⟩

/-- Gives a token back, to be the next one. Only one token is held at a time. -/
def pushBack (token : Token) : Step Scanner Unit := fun scanner =>
  match scanner.held with
  | some _ => .error .heldTwice scanner
  | none => .ok () { scanner with held := some token }

/-- Whether the next token is not the ending. The token is held afterwards. -/
def hasMore : Step Scanner Bool := do
  let token ← next
  pushBack token
  return !token.isEnding

/-- At most so many tokens come before an ending. -/
def size (scanner : Scanner) : Nat :=
  (match scanner.source with
    | .characters stream => stream.rest.length
    | .tokens tokens => tokens.length) +
  (match scanner.held with
    | some _ => 1
    | none => 0)

/-- Takes tokens up to an ending, which is taken too, but no more than `bound`. -/
def drain : Nat → Step Scanner (List Token)
  | 0 => return []
  | bound + 1 => do
    let token ← next
    if token.isEnding then return []
    let later ← drain bound
    return token :: later

/-- Takes all tokens before the next ending, and the ending. -/
def remaining : Step Scanner (List Token) := do drain ((← get).size + 1)

/-- Taking a token never fails, whatever the source. -/
theorem next_eq_ok (scanner : Scanner) : ∃ token after, next scanner = .ok token after := by
  rcases scanner with ⟨_ | (_ | ⟨token, tokens⟩), _ | held⟩
  case characters.none stream =>
    obtain ⟨position, taken⟩ := Lexer.nextToken_eq_lex stream
    simp only [next, taken]
    exact ⟨_, _, rfl⟩
  all_goals exact ⟨_, _, rfl⟩

end Scanner

/-- The tokens of a text. -/
def tokenize (text : String) : Except Stop (List Token) := Scanner.remaining.isolated (Scanner.ofText text)

end LineBasic
