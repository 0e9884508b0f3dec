import LineBasic.Number.Decimal
import LineBasic.Text.Digit
import LineBasic.Text.Quoted

/-!
Integers as they may be spelled outside the language, in a label of a tree. Blanks
may stand around, a sign in front, and the digits may be of any script and grouped
by single underscores. There is no range of values here, but the limit on the
number of digits holds.
-/
namespace LineBasic.Spelling

/-- The blanks that may stand around a number. The information separators
    U+001C to U+001F are not among them. -/
def isMargin (c : Char) : Bool := Text.isBlank c && !(0x1C ≤ c.toNat && c.toNat ≤ 0x1F)

/-- Digits with single underscores between them. -/
def isGrouped : List Char → Bool
  | [] => false
  | [c] => Text.isDecimalDigit c
  | c :: '_' :: later => Text.isDecimalDigit c && isGrouped later
  | c :: later => Text.isDecimalDigit c && isGrouped later

/-- The number that the digits among some characters denote. -/
def value (run : List Char) : Nat := (run.filterMap Text.digitValue?).foldl (fun n digit => 10 * n + digit) 0

/-- Whether a text has a sign in front that makes it negative, and the text after
    its sign. -/
def splitSign : List Char → Bool × List Char
  | '-' :: later => (true, later)
  | '+' :: later => (false, later)
  | text => (false, text)

/-- Reads an integer. The limit on digits is looked at before what follows them. -/
def read (text : String) : Except Stop Int :=
  let (negative, unsigned) := splitSign (text.toList.dropWhile isMargin)
  let inRun := fun c => Text.isDecimalDigit c || c == '_'
  let run := unsigned.takeWhile inRun
  let digits := (run.filter Text.isDecimalDigit).length
  if !isGrouped run then .error (.notNumeral text)
  else if digitLimit < digits then .error (.tooManyDigits digits)
  else if !(unsigned.dropWhile inRun).all isMargin then .error (.notNumeral text)
  else .ok (if negative then -(value run : Int) else value run)

end LineBasic.Spelling
