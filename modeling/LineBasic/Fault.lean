import LineBasic.Text.Quoted

/-!
Why an operation ends without an answer.

A `Fault` is a mistake in the user's line or program. The shell reports it and
goes on, so a fault never ends a session. A `Stop` is any cause at all: a fault,
a terminal that has no more lines or takes no more, a limit that was reached, or
the misuse of a stream.
-/
namespace LineBasic

/-- The mistakes that the shell reports to the user. -/
inductive Fault where
  /-- A fault of no more special kind. -/
  | unspecified
  /-- A line or an expression that breaks the grammar. -/
  | malformed
  /-- A variable read before it had a value. -/
  | undefinedVariable
  | divisionByZero
  /-- A value assigned to something that is not a variable. -/
  | notAssignable
  /-- A line number that is not in the program or cannot be. -/
  | noSuchLine
  /-- A text that is not an integer, or one outside the range of values. -/
  | invalidNumber
  deriving DecidableEq, Repr

namespace Fault

/-- What the user is told. -/
def message : Fault → String
  | .unspecified => "ERROR"
  | .malformed => "SYNTAX ERROR"
  | .undefinedVariable => "VARIABLE NOT DEFINED"
  | .divisionByZero => "DIVIDE BY ZERO"
  | .notAssignable => "ILLEGAL VARIABLE IN ASSIGNMENT"
  | .noSuchLine => "LINE NUMBER ERROR"
  | .invalidNumber => "INVALID NUMBER"

/-- The name of the fault in a verbose report. -/
def label : Fault → String
  | .unspecified => "BasicError"
  | .malformed => "BasicSyntaxError"
  | .undefinedVariable => "UndefinedVariableError"
  | .divisionByZero => "DivideByZeroError"
  | .notAssignable => "IllegalAssignmentTarget"
  | .noSuchLine => "LineNumberError"
  | .invalidNumber => "InvalidNumberFormat"

/-- Every fault, the unspecified one first. -/
def all : List Fault :=
  [.unspecified, .malformed, .undefinedVariable, .divisionByZero, .notAssignable, .noSuchLine, .invalidNumber]

theorem mem_all (fault : Fault) : fault ∈ all := by cases fault <;> decide

/-- A wording of one's own for a fault. An empty one stands for the usual message. -/
def wording (fault : Fault) : Option String → String
  | none => fault.message
  | some text => if text = "" then fault.message else text

end Fault

/-- Why there is no file to read under a name. -/
inductive FileFault where
  | missing
  /-- The name goes through something that is not a folder. -/
  | notFolder
  /-- The name is that of a folder. -/
  | isFolder
  /-- The name or a part of it is longer than names can be. -/
  | nameTooLong
  deriving DecidableEq, Repr

/-- The wording of why there is no file. -/
def FileFault.message : FileFault → String
  | .missing => "There is no such file."
  | .notFolder => "The name goes through a file."
  | .isFolder => "The name is that of a folder."
  | .nameTooLong => "The name is too long."

/-- Every cause that ends an operation. -/
inductive Stop where
  | fault (cause : Fault)
  /-- The terminal has no more lines. -/
  | endOfInput
  /-- The user broke off the reading of a line. -/
  | interrupted
  /-- A decimal text is longer than the longest that is converted. -/
  | tooManyDigits (count : Nat)
  /-- A label that should be an integer is none. -/
  | notNumeral (text : String)
  /-- No more statements may be executed. -/
  | stepLimit
  /-- More calls were in progress than there is room for. -/
  | tooDeep
  /-- The screen did not take a line. -/
  | unwritten
  /-- A second token was handed back to a scanner that holds one already. -/
  | heldTwice
  /-- A character was taken from a stream that has no more of them. -/
  | pastEnd (position : Int)
  /-- A stream was opened farther before its start than its text is long. -/
  | beforeStart (position : Int)
  /-- A labelled tree is of a kind that has no value. -/
  | noValue (kind : String)
  /-- An operation in a labelled tree has fewer than two operands. -/
  | missingOperand
  /-- The name is not the name of a program file. -/
  | notProgramFile
  /-- The name of a file holds the character 0, which no name can. -/
  | badFileName
  | unreadable (cause : FileFault)
  /-- A program file does not hold UTF-8 text. -/
  | notText
  deriving DecidableEq, Repr

/-- The longest decimal text that is converted to a number, in digits. -/
def digitLimit : Nat := 4300

/-- How much of the quoted form of a label is shown where it is refused. -/
def shownLength : Nat := 200

/-- The lowest position that a text can be asked for. -/
def lowestPosition : Int := -9223372036854775808

namespace Stop

/-- The wording of a cause. An interruption has none. -/
def message : Stop → String
  | .fault cause => cause.message
  | .endOfInput => "EOF when reading a line"
  | .interrupted => ""
  | .tooManyDigits count =>
    s!"Exceeds the limit ({digitLimit} digits) for integer string conversion: value has {count} digits; " ++
      "use sys.set_int_max_str_digits() to increase the limit"
  | .notNumeral text =>
    "invalid literal for int() with base 10: " ++ String.ofList ((Text.quoted text).toList.take shownLength)
  | .stepLimit => "step limit"
  | .tooDeep => "maximum recursion depth exceeded in comparison"
  | .unwritten => "The line cannot be shown."
  | .heldTwice => "TokenScanner supports only one token of push-back"
  | .pastEnd position =>
    s!"CharacterStreamError: Attempted to read past end of source at position=<{position}>"
  | .beforeStart position =>
    if position < lowestPosition then "cannot fit 'int' into an index-sized integer" else "string index out of range"
  | .noValue kind => "No evaluator for expression kind '" ++ kind ++ "'"
  | .missingOperand => "tuple index out of range"
  | .notProgramFile => "Only .bas files are supported."
  | .badFileName => "embedded null byte"
  | .unreadable cause => cause.message
  | .notText => "The file does not hold UTF-8 text."

end Stop

end LineBasic
