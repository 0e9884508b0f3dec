/-!
The log of a session: what the parts of the interpreter note for those who watch
it work. It is apart from what the user sees.
-/
namespace LineBasic

inductive LogLevel where
  | debug
  | info
  deriving DecidableEq, Repr

def LogLevel.name : LogLevel → String
  | .debug => "DEBUG"
  | .info => "INFO"

/-- The parts of the interpreter that keep a log. -/
inductive LogSource where
  | commandLine
  | session
  | program
  | shell
  | statements
  deriving DecidableEq, Repr

def LogSource.name : LogSource → String
  | .commandLine => "basic.basic_cli"
  | .session => "basic.basic_interpreter"
  | .program => "basic.basic_program"
  | .shell => "basic.basic_repl"
  | .statements => "basic.basic_statements"

structure LogEntry where
  level : LogLevel
  source : LogSource
  text : String
  deriving DecidableEq, Repr

/-- An entry as a line of the log. -/
def LogEntry.render (entry : LogEntry) : String :=
  entry.level.name ++ " " ++ entry.source.name ++ ": " ++ entry.text ++ "\n"

end LineBasic
