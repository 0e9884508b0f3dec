/-!
Breaking a text into lines. A carriage return directly before a line feed makes
one break with it; a text that ends in a break has no further empty line.
-/
namespace LineBasic.Text

/-- The characters that end a line of a program text. -/
def isBreak (c : Char) : Bool :=
  let n := c.toNat
  (0x0A ≤ n && n ≤ 0x0D) || (0x1C ≤ n && n ≤ 0x1E) || n == 0x85 || n == 0x2028 || n == 0x2029

/-- The lines of a text, without the breaks that end them. -/
def linesOf (endsLine : Char → Bool) : List Char → List (List Char)
  | [] => []
  | '\r' :: '\n' :: rest => [] :: linesOf endsLine rest
  | c :: rest =>
    if endsLine c then [] :: linesOf endsLine rest
    else
      match linesOf endsLine rest with
      | [] => [[c]]
      | line :: later => (c :: line) :: later

/-- The lines of a program text. -/
def splitLines (text : String) : List String := (linesOf isBreak text.toList).map String.ofList

/-- A text in which every line feed, carriage return and pair of both has become
    one line feed. -/
def withLineFeeds : List Char → List Char
  | [] => []
  | '\r' :: '\n' :: rest => '\n' :: withLineFeeds rest
  | c :: rest => (if c = '\r' then '\n' else c) :: withLineFeeds rest

/-- The lines that a reader gets from a text whose lines end as they may in a
    file: in a line feed, a carriage return, or both. -/
def typedLines (text : String) : List String :=
  (linesOf (· == '\n') (withLineFeeds text.toList)).map String.ofList

end LineBasic.Text
