import Reckoner.Console.Options
import Reckoner.Console.Run

/-!
Commands: what the arguments of the program ask for.
-/

namespace Reckoner.Console

inductive Command
  | finish (outcome : Outcome)
  | runExpression (settings : Settings) (expression : String)
  | runInput (settings : Settings)
  deriving DecidableEq

def version : String := "infix-calc 0.1.0"

def usage : List String :=
  ["Evaluate calculator expressions such as 2+3×4; reads stdin when none is given",
   "",
   "Usage: infix-calc [OPTIONS] [EXPRESSION]",
   "",
   "Arguments:",
   "  [EXPRESSION]  Expression to evaluate",
   "",
   "Options:",
   "  -o, --operators <OPERATORS>  Operator alphabet, one character per operator [default: " ++
     Calculator.standardAlphabet ++ "]",
   "  -p, --postfix                Print the postfix form before the result",
   "  -l, --log-level <LOG_LEVEL>  Log level (default: warn) [default: warn] [possible values: " ++
     ", ".intercalate (Severity.all.map Severity.option) ++ "]",
   "  -h, --help                   Print help",
   "  -V, --version                Print version"]

namespace Command

def ofStop : Stop → Command
  | .version => .finish ⟨0, [version], []⟩
  | .help => .finish ⟨0, usage, []⟩
  | .misuse cause => .finish ⟨2, [], [.failure [cause.message]]⟩

def ofGiven (given : Given) : Command :=
  let settings : Settings :=
    ⟨given.alphabet.getD Calculator.standardAlphabet, given.showRpn, given.severity.getD .warn⟩
  if settings.alphabet.isEmpty then
    .finish ⟨1, [], [.failure ["Operator alphabet cannot be empty"]]⟩
  else match given.expression with
    | some expression => .runExpression settings expression
    | none => .runInput settings

def ofArguments (arguments : List String) : Command :=
  match Given.ofArguments arguments with
  | .error stop => ofStop stop
  | .ok given => ofGiven given

def readsInput : Command → Bool
  | .runInput _ => true
  | _ => false

def run (command : Command) (input : List UInt8) : Outcome :=
  match command with
  | .finish outcome => outcome
  | .runExpression settings expression => Console.runExpression settings expression
  | .runInput settings => Console.runInput settings input

end Command
end Reckoner.Console
