import LineBasic.Number.Word
import LineBasic.Text.Blank

/-!
Decimal text. A value is written with the fewest digits and a minus sign where it
is negative. It is read in two places: as a literal of the language, which may
only have a minus sign, and as the reply to a prompt, which may have either sign
and blanks around it. Both readers take ASCII digits only, refuse what is outside
the range of values, and stop at a text with more digits than the limit.
-/
namespace LineBasic.Decimal

/-- The number that a list of digits denotes. -/
def value (digits : List Char) : Nat := digits.foldl (fun n c => 10 * n + (c.toNat - 48)) 0

/-- One or more ASCII digits. -/
def isNumeral (text : List Char) : Bool := !text.isEmpty && text.all Char.isDigit

/-- The number of a numeral, unless it has too many digits. Leading zeros count. -/
def convert (digits : List Char) : Except Stop Nat :=
  if digitLimit < digits.length then .error (.tooManyDigits digits.length) else .ok (value digits)

/-- Reads what follows the sign. The form is looked at first, then the length,
    and the range last. -/
def readDigits (negative : Bool) (digits : List Char) : Except Stop Int :=
  if isNumeral digits then do
    let size ← convert digits
    let n : Int := if negative then -(size : Int) else size
    if Word.InRange n then .ok n else .error (.fault .invalidNumber)
  else .error (.fault .invalidNumber)

/-- Reads an integer literal: digits, with an optional minus sign before them. -/
def readLiteral (text : String) : Except Stop Int :=
  match text.toList with
  | '-' :: digits => readDigits true digits
  | digits => readDigits false digits

/-- Reads a reply: digits, with an optional sign before them and blanks around. -/
def readReply (text : String) : Except Stop Int :=
  match Text.trimmed text.toList with
  | '-' :: digits => readDigits true digits
  | '+' :: digits => readDigits false digits
  | digits => readDigits false digits

/-- The text of an integer. -/
def write : Int → String
  | .ofNat n => String.ofList (Nat.toDigits 10 n)
  | .negSucc n => String.ofList ('-' :: Nat.toDigits 10 (n + 1))

end LineBasic.Decimal
