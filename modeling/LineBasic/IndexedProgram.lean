import LineBasic.Program

/-!
A program with an index. The statements are kept by their numbers, in the order in
which the numbers were first given, and the numbers are kept once more in their own
order, to be searched by halving. Every operation has to keep the two together.
-/
namespace LineBasic

structure IndexedProgram where
  /-- The statements by number, each number once. -/
  statements : List (Int × Statement) := []
  /-- The numbers, in their order. -/
  index : List Int := []
  cursor : Option Int := none
  deriving DecidableEq, Repr

namespace IndexedProgram

/-- The statement under a number. -/
def get? (program : IndexedProgram) (number : Int) : Option Statement := program.statements.lookup number

def contains (program : IndexedProgram) (number : Int) : Bool := (program.get? number).isSome

def size (program : IndexedProgram) : Nat := program.index.length

/-- The place of the first number above a given one, which is sought from `low` on and
    before `high`. At each turn the number in the middle tells in which half it is. -/
def search (index : List Int) (number : Int) (low high : Nat) : Nat :=
  if low < high then
    let middle := (low + high) / 2
    match index[middle]? with
    | some other => if number < other then search index number low middle else search index number (middle + 1) high
    | none => low
  else low
termination_by high - low

/-- The place after the last number that is not above a given one. -/
def placeFor (index : List Int) (number : Int) : Nat := search index number 0 index.length

/-- Puts a number into the index, where it belongs. -/
def enter (number : Int) (index : List Int) : List Int :=
  index.take (placeFor index number) ++ number :: index.drop (placeFor index number)

/-- Gives a number its statement among the others: in its place, or at the end. -/
def put (number : Int) (statement : Statement) : List (Int × Statement) → List (Int × Statement)
  | [] => [(number, statement)]
  | entry :: later => if entry.1 = number then (number, statement) :: later else entry :: put number statement later

/-- Puts a statement under a number. A number that is new enters the index. -/
def insert (program : IndexedProgram) (number : Int) (statement : Statement) : IndexedProgram :=
  { program with
    statements := put number statement program.statements
    index := if program.contains number then program.index else enter number program.index }

/-- Takes a number out of both parts. A cursor that stood on it stands nowhere. -/
def erase (program : IndexedProgram) (number : Int) : IndexedProgram :=
  if program.contains number then
    { statements := program.statements.filter fun entry => entry.1 != number
      index := program.index.erase number
      cursor := if program.cursor = some number then none else program.cursor }
  else program

/-- The first number of the index. -/
def first? (program : IndexedProgram) : Option Int := program.index.head?

/-- The number that the search for those above a given one comes to. -/
def above? (program : IndexedProgram) (number : Int) : Option Int := program.index[placeFor program.index number]?

/-- The lines, in the order of the index. There is no answer if a number of the index
    has no statement. -/
def lines? (program : IndexedProgram) : Option (List (Int × Statement)) :=
  program.index.mapM fun number => (program.get? number).map fun statement => (number, statement)

/-- The program with the cursor on its first line. -/
def start (program : IndexedProgram) : IndexedProgram := { program with cursor := program.first? }

/-- The program with the cursor on the next line. A cursor that stands nowhere stays there. -/
def advance (program : IndexedProgram) : IndexedProgram :=
  { program with cursor := program.cursor.bind program.above? }

/-- The program with its cursor nowhere. -/
def halt (program : IndexedProgram) : IndexedProgram := { program with cursor := none }

def isHalted (program : IndexedProgram) : Bool := program.cursor.isNone

/-- The statement under a number that must be in the program. -/
def fetch (number : Int) : Step IndexedProgram Statement := fun program =>
  match program.get? number with
  | some statement => .ok statement program
  | none => .error (.fault .noSuchLine) program

/-- Puts the cursor on a line that must be in the program. -/
def jump (number : Int) : Step IndexedProgram Unit := fun program =>
  if program.contains number then .ok () { program with cursor := some number }
  else .error (.fault .noSuchLine) program

end IndexedProgram

end LineBasic
