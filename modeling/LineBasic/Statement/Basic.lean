import LineBasic.Text.Quoted
import LineBasic.Token.Scanner

/-!
A statement is kept as the text that the user gave, together with its kind. Its
operands are read from the text each time it is executed.
-/
namespace LineBasic

/-- The kind of a statement: that of a keyword, or a name that stands for none. -/
inductive StatementKind where
  | known (keyword : Keyword)
  | unknown (name : String)
  deriving DecidableEq, Repr

namespace StatementKind

def name : StatementKind → String
  | .known keyword => keyword.name
  | .unknown name => name

def ofName (text : String) : StatementKind :=
  match Keyword.ofName? text with
  | some keyword => .known keyword
  | none => .unknown text

end StatementKind

structure Statement where
  kind : StatementKind
  source : String
  deriving DecidableEq, Repr

namespace Statement

/-- The statement as `Statement(kind, 'source')`. -/
def describe (statement : Statement) : String :=
  "Statement(" ++ statement.kind.name ++ ", " ++ Text.quoted statement.source ++ ")"

/-- The keyword that starts a text, if one does. -/
def keyword? (text : String) : Except Stop (Option Keyword) := do
  let first ← Scanner.next.isolated (Scanner.ofText text)
  return first.keyword?

end Statement

end LineBasic
