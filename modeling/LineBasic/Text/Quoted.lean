import LineBasic.Text.Invisible

/-!
The quoted form of a text, in which log lines and structural descriptions show
it. The quote is `'`, or `"` where the text has a `'` and no `"`. A backslash
stands before a backslash and before the quote, and a character that would not
show is written by its number.
-/
namespace LineBasic.Text

/-- A number in lower-case hexadecimal digits, with at least `width` of them. -/
def hexadecimal (width n : Nat) : List Char :=
  let digits := Nat.toDigits 16 n
  List.replicate (width - digits.length) '0' ++ digits

/-- One character inside the given quotes. -/
def quotedChar (quote c : Char) : List Char :=
  if c = '\\' ∨ c = quote then ['\\', c]
  else if c = '\t' then ['\\', 't']
  else if c = '\n' then ['\\', 'n']
  else if c = '\r' then ['\\', 'r']
  else if isInvisible c then
    if c.toNat < 0x100 then '\\' :: 'x' :: hexadecimal 2 c.toNat
    else if c.toNat < 0x10000 then '\\' :: 'u' :: hexadecimal 4 c.toNat
    else '\\' :: 'U' :: hexadecimal 8 c.toNat
  else [c]

/-- The quote that a text is put in. -/
def quoteFor (text : List Char) : Char := if text.contains '\'' && !text.contains '"' then '"' else '\''

/-- The quoted form of a text. -/
def quoted (text : String) : String :=
  let quote := quoteFor text.toList
  String.ofList (quote :: text.toList.flatMap (quotedChar quote) ++ [quote])

end LineBasic.Text
