import LineBasic.Vocabulary

/-!
Tokens: the words, numerals and signs that a line is made of. A numeral keeps the
letters that are attached to it (`12ab`), and is refused only where its number is
asked for.
-/
namespace LineBasic

/-- What a token is. -/
inductive TokenKind where
  | word
  | number
  | operator
  /-- The end of the tokens. -/
  | ending
  /-- A kind that no line has and that nothing accepts. -/
  | other (name : String)
  deriving DecidableEq, Repr

namespace TokenKind

def name : TokenKind → String
  | .word => "WORD"
  | .number => "NUMBER"
  | .operator => "OPERATOR"
  | .ending => "EOF"
  | .other name => name

def ofName (text : String) : TokenKind :=
  if text = "WORD" then .word
  else if text = "NUMBER" then .number
  else if text = "OPERATOR" then .operator
  else if text = "EOF" then .ending
  else .other text

end TokenKind

structure Token where
  kind : TokenKind
  text : String
  deriving DecidableEq, Repr

namespace Token

/-- The token that stands for the end of the tokens. -/
def ending : Token := ⟨.ending, ""⟩

/-- The token as `Token(KIND, text)`. -/
def describe (token : Token) : String := "Token(" ++ token.kind.name ++ ", " ++ token.text ++ ")"

def isEnding (token : Token) : Bool := token.kind == .ending

/-- Whether the token is the given sign. -/
def isSign (token : Token) (sign : String) : Bool := token.kind == .operator && token.text == sign

/-- The operator that the token is, if it is one that joins expressions. -/
def operator? (token : Token) : Option Operator :=
  if token.kind = .operator then Operator.ofSign? token.text else none

/-- How tightly the token binds as an operator. Any other token binds with 0. -/
def precedence (token : Token) : Nat := (token.operator?.map Operator.precedence).getD 0

/-- The relation that the token is, if it is one. -/
def relation? (token : Token) : Option Relation :=
  if token.kind = .operator then Relation.ofSign? token.text else none

def isRelation (token : Token) : Bool := token.relation?.isSome

/-- A numeral of digits alone. -/
def isLineNumber (token : Token) : Bool := token.kind == .number && token.text.toList.all Char.isDigit

/-- A word that can name a variable. -/
def isVariable (token : Token) : Bool := token.kind == .word && isIdentifier token.text

/-- The word between the condition and the target of a branch. -/
def isThen (token : Token) : Bool := token.kind == .word && token.text == thenWord

/-- The keyword that the token is, if it is one. -/
def keyword? (token : Token) : Option Keyword :=
  if token.kind = .word then Keyword.ofWord? token.text else none

/-- The command that the token is, if it is one. -/
def command? (token : Token) : Option Command :=
  if token.kind = .word then Command.ofWord? token.text else none

/-- Whether all characters of the token may stand in an expression. -/
def isPlain (token : Token) : Bool := token.text.toList.all isExpressionChar

end Token

end LineBasic
