import LineBasic.Fault

/-!
The words and signs of the language, and the texts that the program itself says.
Words are written in capitals; a lower-case `let` is an ordinary variable.
-/
namespace LineBasic

/-- The words that start a statement. -/
inductive Keyword where
  | remark
  | assign
  | print
  | input
  | stop
  | jump
  | branch
  deriving DecidableEq, Repr

namespace Keyword

def word : Keyword → String
  | .remark => "REM"
  | .assign => "LET"
  | .print => "PRINT"
  | .input => "INPUT"
  | .stop => "END"
  | .jump => "GOTO"
  | .branch => "IF"

/-- The name of the kind of statement that the word starts: the word in lower case. -/
def name : Keyword → String
  | .remark => "rem"
  | .assign => "let"
  | .print => "print"
  | .input => "input"
  | .stop => "end"
  | .jump => "goto"
  | .branch => "if"

def all : List Keyword := [.remark, .assign, .print, .input, .stop, .jump, .branch]

theorem mem_all (keyword : Keyword) : keyword ∈ all := by cases keyword <;> decide

def ofWord? (text : String) : Option Keyword := all.find? (·.word == text)

def ofName? (text : String) : Option Keyword := all.find? (·.name == text)

/-- The statements that may be given without a line number. -/
def isImmediate : Keyword → Bool
  | .assign | .print | .input => true
  | .remark | .stop | .jump | .branch => false

end Keyword

/-- The words that the shell obeys. -/
inductive Command where
  | run
  | list
  | clear
  | quit
  | help
  deriving DecidableEq, Repr

namespace Command

def word : Command → String
  | .run => "RUN"
  | .list => "LIST"
  | .clear => "CLEAR"
  | .quit => "QUIT"
  | .help => "HELP"

def all : List Command := [.run, .list, .clear, .quit, .help]

theorem mem_all (command : Command) : command ∈ all := by cases command <;> decide

def ofWord? (text : String) : Option Command := all.find? (·.word == text)

end Command

/-- The word between the condition and the target of a branch. -/
def thenWord : String := "THEN"

/-- The words that cannot name a variable. -/
def reserved : List String := Keyword.all.map Keyword.word ++ Command.all.map Command.word ++ [thenWord]

/-- A variable is named by a letter and then letters and digits, all ASCII, and
    not by a reserved word. -/
def isIdentifier (text : String) : Bool :=
  match text.toList with
  | [] => false
  | first :: rest => first.isAlpha && rest.all Char.isAlphanum && !reserved.contains text

/-- The operators that compute. -/
inductive Arithmetic where
  | add
  | subtract
  | multiply
  | divide
  deriving DecidableEq, Repr

/-- The operators that join two expressions. -/
inductive Operator where
  | assign
  | arithmetic (operation : Arithmetic)
  deriving DecidableEq, Repr

namespace Operator

def sign : Operator → String
  | .assign => "="
  | .arithmetic .add => "+"
  | .arithmetic .subtract => "-"
  | .arithmetic .multiply => "*"
  | .arithmetic .divide => "/"

def all : List Operator :=
  [.assign, .arithmetic .add, .arithmetic .subtract, .arithmetic .multiply, .arithmetic .divide]

theorem mem_all (operator : Operator) : operator ∈ all := by
  rcases operator with _ | (_ | _ | _ | _) <;> decide

def ofSign? (text : String) : Option Operator := all.find? (·.sign == text)

/-- The higher, the tighter an operator binds. -/
def precedence : Operator → Nat
  | .assign => 1
  | .arithmetic .add | .arithmetic .subtract => 2
  | .arithmetic .multiply | .arithmetic .divide => 3

/-- Whether `a ∘ b ∘ c` stands for `a ∘ (b ∘ c)`. -/
def isRightAssociative : Operator → Bool
  | .assign => true
  | .arithmetic _ => false

end Operator

/-- The relations that a branch can ask about. -/
inductive Relation where
  | equal
  | less
  | greater
  deriving DecidableEq, Repr

namespace Relation

def sign : Relation → String
  | .equal => "="
  | .less => "<"
  | .greater => ">"

def all : List Relation := [.equal, .less, .greater]

theorem mem_all (relation : Relation) : relation ∈ all := by cases relation <;> decide

def ofSign? (text : String) : Option Relation := all.find? (·.sign == text)

/-- Whether the relation holds of two values. -/
def holds : Relation → Int → Int → Bool
  | .equal, left, right => left == right
  | .less, left, right => left < right
  | .greater, left, right => left > right

/-- Whether the relation of a sign holds of two values. Any other sign is a fault. -/
def compare (sign : String) (left right : Int) : Except Fault Bool :=
  match ofSign? sign with
  | some relation => .ok (relation.holds left right)
  | none => .error .malformed

end Relation

/-- The signs that may stand in an expression, besides letters and digits. -/
def expressionSigns : List Char := ['.', '+', '-', '*', '/', '=']

/-- The characters that the check of a stored line allows in an expression. -/
def isExpressionChar (c : Char) : Bool := c.isAlphanum || expressionSigns.contains c

/-- What asks the user for a value. -/
def inputPrompt : String := " ? "

/-- What greets the user. -/
def banner : String := "Minimal BASIC. Type HELP for help, QUIT to leave."

/-- The answer to `HELP`. -/
def helpText : String :=
  "Yet another basic interpreter\n" ++
  "Statements (use with a line number to store them):\n" ++
  "    REM <comment>\n" ++
  "    LET <var> = <expr>\n" ++
  "    PRINT <expr>\n" ++
  "    INPUT <var>\n" ++
  "    END\n" ++
  "    GOTO <line>\n" ++
  "    IF <expr> <op> <expr> THEN <line>     (op is one of = < >)\n" ++
  "Commands:\n" ++
  "    RUN     execute the stored program\n" ++
  "    LIST    show the stored program\n" ++
  "    CLEAR   delete the program and all variables\n" ++
  "    HELP    show this message\n" ++
  "    QUIT    leave the interpreter\n" ++
  "Enter '<line>' alone to delete a stored line."

end LineBasic
