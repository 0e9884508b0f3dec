import LineBasic.Step
import LineBasic.Number.Decimal
import LineBasic.Text.Quoted

/-!
The variables that have a value, in the order in which they got their first one.
A new value of a variable keeps its place.
-/
namespace LineBasic

structure Variables where
  entries : List (String × Int) := []
  deriving DecidableEq, Repr

namespace Variables

/-- The value of a name, if it has one. -/
def get? (vars : Variables) (name : String) : Option Int := vars.entries.lookup name

def isDefined (vars : Variables) (name : String) : Bool := (vars.get? name).isSome

def size (vars : Variables) : Nat := vars.entries.length

/-- Gives a name its new value in the list: in its place, or at the end. -/
def place (name : String) (value : Int) : List (String × Int) → List (String × Int)
  | [] => [(name, value)]
  | entry :: later => if entry.1 = name then (name, value) :: later else entry :: place name value later

/-- Gives a name a value. -/
def set (vars : Variables) (name : String) (value : Int) : Variables := ⟨place name value vars.entries⟩

@[simp] theorem get?_set (vars : Variables) (name other : String) (value : Int) :
    (vars.set name value).get? other = if other = name then some value else vars.get? other := by
  obtain ⟨entries⟩ := vars
  simp only [set, get?]
  induction entries with
  | nil =>
    by_cases same : other = name
    · simp [place, same]
    · simp [place, List.lookup_cons, beq_eq_false_iff_ne.2 same, same]
  | cons entry later ih =>
    obtain ⟨first, old⟩ := entry
    by_cases here : first = name
    · subst here
      by_cases same : other = first
      · simp [place, same]
      · simp [place, List.lookup_cons, beq_eq_false_iff_ne.2 same, same]
    · by_cases same : other = first
      · subst same
        simp [place, here]
      · simp [place, List.lookup_cons, here, beq_eq_false_iff_ne.2 same, ih]

/-- The names, in the order of their characters. -/
def names (vars : Variables) : List String := (vars.entries.map Prod.fst).mergeSort fun a b => a ≤ b

/-- Each name with its value, in the order of the names. -/
def sorted (vars : Variables) : List (String × Int) :=
  vars.entries.mergeSort fun a b => a.1 ≤ b.1

/-- The variables as `SymbolTable({'b': 2, 'a': 1})`, in the order of first values. -/
def describe (vars : Variables) : String :=
  "SymbolTable(\x7b" ++
    ", ".intercalate (vars.entries.map fun entry => Text.quoted entry.1 ++ ": " ++ Decimal.write entry.2) ++
    "\x7d)"

/-- Reads a variable, which must have a value. -/
def read (name : String) : Step Variables Int := fun vars =>
  match vars.get? name with
  | some value => .ok value vars
  | none => .error (.fault .undefinedVariable) vars

/-- Gives a variable a value. -/
def assign (name : String) (value : Int) : Step Variables Unit := fun vars => .ok () (vars.set name value)

end Variables

end LineBasic
