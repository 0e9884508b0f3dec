import LineBasic.CommandLine.Arguments
import LineBasic.CommandLine.Folder
import LineBasic.CommandLine.Load
import LineBasic.CommandLine.Usage
import LineBasic.Console
import LineBasic.Expr.Basic
import LineBasic.Expr.Eval
import LineBasic.Expr.Parser
import LineBasic.Expr.Tree
import LineBasic.Fault
import LineBasic.IndexedProgram
import LineBasic.Log
import LineBasic.Main
import LineBasic.Number.Decimal
import LineBasic.Number.Spelling
import LineBasic.Number.Word
import LineBasic.Program
import LineBasic.Session.Basic
import LineBasic.Session.Edit
import LineBasic.Session.Execute
import LineBasic.Shell
import LineBasic.Statement.Basic
import LineBasic.Statement.Form
import LineBasic.Statement.Operands
import LineBasic.Step
import LineBasic.Text.Blank
import LineBasic.Text.Break
import LineBasic.Text.Digit
import LineBasic.Text.Invisible
import LineBasic.Text.Lemmas
import LineBasic.Text.Quoted
import LineBasic.Token.Basic
import LineBasic.Token.Lexer
import LineBasic.Token.Scanner
import LineBasic.Token.Stream
import LineBasic.Variables
import LineBasic.Vocabulary
import LineBasic.Proofs.Expr.Grammar
import LineBasic.Proofs.Token.Ahead
import LineBasic.Proofs.Expr.Reading
import LineBasic.Proofs.Step.Keeps
import LineBasic.Proofs.Token.Lexed
import LineBasic.Proofs.Expr.Values
import LineBasic.Proofs.Statement.Operands
import LineBasic.Proofs.Program.Order
import LineBasic.Proofs.Session.Proper
import LineBasic.Proofs.Session.Reachable
import LineBasic.Proofs.Expr.Effects
import LineBasic.Proofs.Statement.Form
import LineBasic.Proofs.Session.Atomic
import LineBasic.Proofs.Text.Trim
import LineBasic.Proofs.Token.Concatenation
import LineBasic.Proofs.Session.Entering
import LineBasic.Proofs.Step.Agree
import LineBasic.Proofs.Session.StraightLine
import LineBasic.Proofs.Step.Outcome
import LineBasic.Proofs.Session.Moves
import LineBasic.Proofs.Expr.Causes
import LineBasic.Proofs.Session.Perform
import LineBasic.Proofs.Session.Running
import LineBasic.Proofs.Session.Editing
import LineBasic.Proofs.Session.History
import LineBasic.Proofs.Statement.Sentence
import LineBasic.Proofs.Session.Checked
import LineBasic.Proofs.Session.Refused
import LineBasic.Proofs.Session.Reloading
import LineBasic.Proofs.Session.Escapes
import LineBasic.Proofs.Expr.Rendering
import LineBasic.Proofs.Step.Unless
import LineBasic.Proofs.Statement.Congruence
import LineBasic.Proofs.Session.Respected
import LineBasic.Proofs.Session.Respelled
import LineBasic.Proofs.Expr.Frame
import LineBasic.Proofs.Session.Frame
import LineBasic.Proofs.Program.Insertion
import LineBasic.Proofs.Session.Remark
import LineBasic.Proofs.Session.Alongside
import LineBasic.Proofs.Session.Conversation
import LineBasic.Proofs.Program.Search
import LineBasic.Proofs.Program.Indexed
import LineBasic.Proofs.Session.Asking
import LineBasic.Proofs.Expr.Failing
import LineBasic.Proofs.Expr.Unbounded
import LineBasic.Proofs.Expr.Defined
import LineBasic.Proofs.Expr.Noninterference
import LineBasic.Proofs.Expr.Quotient
import LineBasic.Proofs.Session.Forward
import LineBasic.Proofs.Token.Occurrence
import LineBasic.Proofs.Token.Alike
import LineBasic.Proofs.Expr.Interchange
import LineBasic.Proofs.Number.Readers
import LineBasic.Proofs.Session.Printing
import LineBasic.Proofs.Session.Dispatch
import LineBasic.Proofs.CommandLine.Supply
import LineBasic.Proofs.Session.Naming
