/-!
The account of the arguments that the program gives of itself.
-/
namespace LineBasic.CommandLine

def usage : String := "usage: minibasic [-h] [-s] [-r] [--repl] [--verbose] [source]"

/-- The answer to the flag `help`. -/
def account : String :=
  usage ++ "\n\n" ++
  "  source         Filename or program text (with -s)\n" ++
  "  -h, --help     show this help message and exit\n" ++
  "  -s, --string   Interpret source as program text\n" ++
  "  -r, --run      RUN the program after loading it\n" ++
  "  --repl         Launch interactive REPL\n" ++
  "  --verbose      Debug logging and tracebacks"

end LineBasic.CommandLine
