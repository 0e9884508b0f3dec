import LineBasic.Text.Digit

/-!
What the arguments of the command line ask for. Flags may stand anywhere, a long
one may be cut as long as it stays unambiguous, and short ones may be joined. One
other argument may be given, the source. After `--` no argument is a flag.
-/
namespace LineBasic.CommandLine

inductive Flag where
  /-- The source is the text of a program and not the name of a file. -/
  | inline
  /-- The program is run once it is loaded. -/
  | run
  /-- A conversation is held, whatever the source. -/
  | converse
  /-- Reports are verbose and the log is shown. -/
  | verbose
  | help
  deriving DecidableEq, Repr

namespace Flag

def all : List Flag := [.inline, .run, .converse, .verbose, .help]

theorem mem_all (flag : Flag) : flag ∈ all := by cases flag <;> decide

/-- The long name, after two dashes. -/
def long : Flag → String
  | .inline => "string"
  | .run => "run"
  | .converse => "repl"
  | .verbose => "verbose"
  | .help => "help"

/-- The letter, after one dash, if the flag has one. -/
def short? : Flag → Option Char
  | .inline => some 's'
  | .run => some 'r'
  | .converse => none
  | .verbose => none
  | .help => some 'h'

def ofShort? (letter : Char) : Option Flag := all.find? (·.short? == some letter)

/-- The flags that a long name, cut or whole, can mean. A whole name means its flag alone. -/
def ofLong (name : List Char) : List Flag :=
  match all.find? (·.long.toList == name) with
  | some flag => [flag]
  | none => all.filter fun flag => name.isPrefixOf flag.long.toList

end Flag

/-- What one argument is. -/
inductive Argument where
  | positional (text : String)
  | flags (flags : List Flag)
  /-- The end of the flags. -/
  | separator
  /-- A flag that there is not. -/
  | unknown
  /-- A flag that could be one of several. -/
  | ambiguous
  /-- A flag with something attached that it cannot have. -/
  | refused
  deriving DecidableEq, Repr

namespace Argument

/-- Digits of any scripts, with a point before the last ones or without. A line
    feed may follow. -/
def isDecimal (text : List Char) : Bool :=
  let digits := if text.getLast? = some '\n' then text.dropLast else text
  match digits.dropWhile Text.isDecimalDigit with
  | [] => !digits.isEmpty
  | '.' :: fraction => !fraction.isEmpty && fraction.all Text.isDecimalDigit
  | _ => false

/-- An argument with a dash in front that is no flag: a source if it is a negative
    number or holds a space. -/
def unlessFlag (text : String) : Argument :=
  if isDecimal (text.toList.drop 1) || text.toList.contains ' ' then .positional text else .unknown

/-- The flag of a letter and the flags of the letters joined to it. -/
def joined (first : Flag) (letters : List Char) : Argument :=
  match letters.mapM Flag.ofShort? with
  | some others => .flags (first :: others)
  | none => .refused

/-- Reads one argument. A long flag takes no value; after a short one, the first
    `=` is passed over if letters of flags follow it. -/
def ofText (text : String) : Argument :=
  match text.toList with
  | ['-', '-'] => .separator
  | '-' :: '-' :: name =>
    match Flag.ofLong (name.takeWhile (· != '=')) with
    | [] => unlessFlag text
    | [flag] => if name.contains '=' then .refused else .flags [flag]
    | _ => .ambiguous
  | '-' :: letter :: later =>
    match Flag.ofShort? letter, later with
    | none, _ => unlessFlag text
    | some _, ['='] => .refused
    | some flag, '=' :: letters => joined flag letters
    | some flag, letters => joined flag letters
  | _ => .positional text

end Argument

/-- The arguments read so far. -/
structure Arguments where
  source : Option String := none
  /-- Whether the last argument was the source. -/
  atSource : Bool := false
  flags : List Flag := []
  /-- Whether there was an argument that has no meaning. -/
  surplus : Bool := false
  deriving DecidableEq, Repr

/-- What the user asks for. -/
inductive Request where
  /-- An account of the arguments. -/
  | help
  /-- A conversation. -/
  | converse (verbose : Bool)
  /-- A program from a source, line by line. -/
  | load (source : String) (inline run verbose : Bool)
  deriving DecidableEq, Repr

/-- The arguments are not understood. -/
inductive UsageError where
  | misused
  deriving DecidableEq, Repr

namespace Arguments

/-- Adds a source. A second one has no meaning. -/
def addSource (arguments : Arguments) (text : String) : Arguments :=
  match arguments.source with
  | none => { arguments with source := some text, atSource := true }
  | some _ => { arguments with atSource := false, surplus := true }

/-- Adds what follows the end of the flags: at most the source. The end itself is
    surplus if the source came before the last flag. -/
def addAfterSeparator (arguments : Arguments) (texts : List String) : Arguments :=
  let separated :=
    if arguments.source.isSome && !arguments.atSource then { arguments with surplus := true } else arguments
  texts.foldl addSource separated

/-- What the arguments ask for. Without a source there is only a conversation. -/
def meaning (arguments : Arguments) : Request :=
  let verbose := arguments.flags.contains .verbose
  match arguments.source with
  | none => .converse verbose
  | some source =>
    if arguments.flags.contains .converse then .converse verbose
    else .load source (arguments.flags.contains .inline) (arguments.flags.contains .run) verbose

/-- Reads arguments in order. The flag `help` is obeyed as soon as it is met, and
    what has no meaning is refused at the end. -/
def request (arguments : Arguments) : List String → Except UsageError Request
  | [] => if arguments.surplus then .error .misused else .ok arguments.meaning
  | text :: later =>
    match Argument.ofText text with
    | .positional text => request (arguments.addSource text) later
    | .flags flags =>
      if flags.contains .help then .ok .help
      else request { arguments with flags := arguments.flags ++ flags, atSource := false } later
    | .separator =>
      let complete := arguments.addAfterSeparator later
      if complete.surplus then .error .misused else .ok complete.meaning
    | .unknown => request { arguments with surplus := true, atSource := false } later
    | .ambiguous | .refused => .error .misused

end Arguments

/-- Whether every flag before the end of the flags can be told from the others. -/
def isUnambiguous (arguments : List String) : Bool :=
  let readings := arguments.map Argument.ofText
  !(readings.takeWhile (· != .separator)).contains .ambiguous

/-- What a command line asks for. An ambiguous flag is refused before anything else
    is looked at. -/
def request (arguments : List String) : Except UsageError Request :=
  if isUnambiguous arguments then Arguments.request {} arguments else .error .misused

end LineBasic.CommandLine
