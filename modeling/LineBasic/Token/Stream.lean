import LineBasic.Step

/-!
The characters of a line, read from left to right. The position counts the
characters before the next one. A stream may be opened past its end, and also
before its start: at the position -1 it gives the last character first, at -2 the
last two, and then the whole text from its start. Farther before the start than
the text is long there is no character, and no end either.
-/
namespace LineBasic

structure CharStream where
  position : Int
  /-- The characters from the position on. -/
  rest : List Char
  deriving DecidableEq, Repr

namespace CharStream

/-- The stream of a text, from the given position on. -/
def ofText (text : String) (position : Int) : CharStream :=
  match position with
  | .ofNat skipped => ⟨position, text.toList.drop skipped⟩
  | .negSucc before =>
    if before < text.toList.length then
      ⟨position, text.toList.drop (text.toList.length - (before + 1)) ++ text.toList⟩
    else ⟨position, []⟩

/-- Whether the stream was opened too far before its start. -/
def isOutside (stream : CharStream) : Bool := stream.rest.isEmpty && stream.position < 0

/-- The next character, which stays in the stream. -/
def peek (stream : CharStream) : Option Char := stream.rest.head?

def atEnd (stream : CharStream) : Bool := stream.rest.isEmpty && !stream.isOutside

/-- The next character, if there is one. There must be a place to look at. -/
def look : Step CharStream (Option Char) := fun stream =>
  if stream.isOutside then .error (.beforeStart stream.position) stream else .ok stream.peek stream

/-- Takes the next character. There must be one. -/
def next : Step CharStream Char := fun stream =>
  match stream.rest with
  | [] => .error (if stream.isOutside then .beforeStart stream.position else .pastEnd stream.position) stream
  | c :: rest => .ok c ⟨stream.position + 1, rest⟩

/-- Takes the longest run of characters of a class, which may be empty. -/
def takeRun (inRun : Char → Bool) : Step CharStream (List Char) := fun stream =>
  let run := stream.rest.takeWhile inRun
  .ok run ⟨stream.position + run.length, stream.rest.dropWhile inRun⟩

end CharStream

end LineBasic
