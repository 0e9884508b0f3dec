import LineBasic.Step

/-!
A console with a user at it: the replies that the user is going to give, and the
record of what was asked and written so far. Lines are written on a screen, which
need not take all of them.
-/
namespace LineBasic

/-- What the user does when asked for a line. -/
inductive Reply where
  | line (text : String)
  /-- Breaks off instead of answering. -/
  | interruption
  deriving DecidableEq, Repr

/-- What appears on a console. -/
inductive Entry where
  /-- The text in front of which the user types a line. -/
  | prompt (text : String)
  | line (text : String)
  deriving DecidableEq, Repr

/-- Which lines a screen refuses, after what it shows already, the last entry first. -/
class Screen where
  refuses : List Entry → String → Bool

/-- A screen that takes every line. It is meant where no other one is named. -/
instance Screen.willing : Screen where
  refuses _ _ := false

structure Console where
  replies : List Reply := []
  /-- The record, the last entry first. -/
  written : List Entry := []
  deriving DecidableEq, Repr

namespace Console

/-- The record, in order. -/
def transcript (console : Console) : List Entry := console.written.reverse

/-- Adds an entry to the record. -/
def record (console : Console) (entry : Entry) : Console := { console with written := entry :: console.written }

@[simp] theorem transcript_record (console : Console) (entry : Entry) :
    (console.record entry).transcript = console.transcript ++ [entry] := by
  simp [transcript, record]

@[simp] theorem replies_record (console : Console) (entry : Entry) :
    (console.record entry).replies = console.replies := rfl

/-- Writes a line. -/
def say [Screen] (text : String) : Step Console Unit := fun console =>
  if Screen.refuses console.written text then .error .unwritten console else .ok () (console.record (.line text))

@[simp] theorem say_willing (text : String) (console : Console) :
    say text console = .ok () (console.record (.line text)) := rfl

/-- Asks for a line. The prompt is recorded whether or not an answer comes. -/
def ask (prompt : String) : Step Console String := fun console =>
  let asked := console.record (.prompt prompt)
  match console.replies with
  | [] => .error .endOfInput asked
  | .interruption :: later => .error .interrupted { asked with replies := later }
  | .line text :: later => .ok text { asked with replies := later }

/-- The entries up to the prompt that so many others come before, if there is
    such a prompt: what a user sees who has given so many replies and is asked for
    the next. -/
def upToPrompt : Nat → List Entry → Option (List Entry)
  | _, [] => none
  | replies, .line text :: later => (upToPrompt replies later).map (.line text :: ·)
  | 0, .prompt text :: _ => some [.prompt text]
  | replies + 1, .prompt text :: later => (upToPrompt replies later).map (.prompt text :: ·)

end Console

/-- An entry as it appears on a terminal: a line ends in a line feed, a prompt in
    nothing. -/
def Entry.render : Entry → String
  | .prompt text => text
  | .line text => text ++ "\n"

end LineBasic
