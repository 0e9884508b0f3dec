import LineBasic.Statement.Basic

/-!
A program: statements under line numbers, in the order of the numbers, and a
cursor that stands on the line to be executed or nowhere.
-/
namespace LineBasic

structure Program where
  lines : List (Int × Statement) := []
  cursor : Option Int := none
  deriving DecidableEq, Repr

namespace Program

/-- The statement under a number. -/
def get? (program : Program) (number : Int) : Option Statement := program.lines.lookup number

def contains (program : Program) (number : Int) : Bool := (program.get? number).isSome

def numbers (program : Program) : List Int := program.lines.map Prod.fst

def size (program : Program) : Nat := program.lines.length

/-- The least number. -/
def first? (program : Program) : Option Int := program.numbers.head?

/-- The least number above a given one, which need not be in the program. -/
def above? (program : Program) (number : Int) : Option Int := program.numbers.find? (number < ·)

/-- Puts a statement under its number among lines in the order of their numbers. -/
def place (number : Int) (statement : Statement) : List (Int × Statement) → List (Int × Statement)
  | [] => [(number, statement)]
  | line :: later =>
    if number < line.1 then (number, statement) :: line :: later
    else if number = line.1 then (number, statement) :: later
    else line :: place number statement later

/-- Puts a statement under a number, in place of the one that may be there. -/
def insert (program : Program) (number : Int) (statement : Statement) : Program :=
  { program with lines := place number statement program.lines }

/-- Takes a line out of the program. A cursor that stood on it stands nowhere. -/
def erase (program : Program) (number : Int) : Program :=
  if program.contains number then
    { lines := program.lines.filter fun line => line.1 != number
      cursor := if program.cursor = some number then none else program.cursor }
  else program

/-- The program with the cursor on its first line. -/
def start (program : Program) : Program := { program with cursor := program.first? }

/-- The program with the cursor on the next line. A cursor that stands nowhere stays there. -/
def advance (program : Program) : Program := { program with cursor := program.cursor.bind program.above? }

/-- The program with its cursor nowhere. -/
def halt (program : Program) : Program := { program with cursor := none }

def isHalted (program : Program) : Bool := program.cursor.isNone

/-- The statement under a number that must be in the program. -/
def fetch (number : Int) : Step Program Statement := fun program =>
  match program.get? number with
  | some statement => .ok statement program
  | none => .error (.fault .noSuchLine) program

/-- Puts the cursor on a line that must be in the program. -/
def jump (number : Int) : Step Program Unit := fun program =>
  if program.contains number then .ok () { program with cursor := some number }
  else .error (.fault .noSuchLine) program

end Program

end LineBasic
