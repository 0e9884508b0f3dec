/-!
Blank characters, and text without the blanks at its ends. A character is blank
if it only separates: the separator controls, the space, and the spaces and line
separators of other scripts.
-/
namespace LineBasic.Text

/-- The blank characters. The zero-width ones (U+180E, U+200B, U+2060, U+FEFF)
    separate nothing and are not among them. -/
def isBlank (c : Char) : Bool :=
  let n := c.toNat
  (0x09 ≤ n && n ≤ 0x0D) || (0x1C ≤ n && n ≤ 0x20) || n == 0x85 || n == 0xA0 || n == 0x1680 ||
    (0x2000 ≤ n && n ≤ 0x200A) || n == 0x2028 || n == 0x2029 || n == 0x202F || n == 0x205F || n == 0x3000

/-- What is left of a text without the blanks at its start. -/
def trimStart (text : List Char) : List Char := text.dropWhile isBlank

/-- What is left of a text without the blanks at its end. -/
def trimEnd (text : List Char) : List Char := (text.reverse.dropWhile isBlank).reverse

/-- A text without the blanks at both ends. -/
def trimmed (text : List Char) : List Char := trimEnd (trimStart text)

/-- A text without the blanks at both ends. -/
def trim (text : String) : String := String.ofList (trimmed text.toList)

end LineBasic.Text
