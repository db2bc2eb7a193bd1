import Reckoner.Number.Style
import Reckoner.Rpn.Value

/-!
Events in the course of a calculation, each with its severity, its source and its message.
-/

namespace Reckoner

inductive Severity
  | error
  | warn
  | info
  | debug
  | trace
  deriving DecidableEq, Repr

namespace Severity

def place : Severity → Nat
  | .error => 1
  | .warn => 2
  | .info => 3
  | .debug => 4
  | .trace => 5

def label : Severity → String
  | .error => "ERROR"
  | .warn => "WARN"
  | .info => "INFO"
  | .debug => "DEBUG"
  | .trace => "TRACE"

def option : Severity → String
  | .error => "error"
  | .warn => "warn"
  | .info => "info"
  | .debug => "debug"
  | .trace => "trace"

def all : List Severity := [.error, .warn, .info, .debug, .trace]

def ofOption? (name : String) : Option Severity :=
  all.find? fun severity => severity.option == name

end Severity

inductive Event
  | scanning (expression : String)
  | scanned (count : Nat)
  | ordered (texts : List String)
  | meaningless (symbol : Char)
  | applied (left : Float) (symbol : Char) (right result : Float)
  | unused (count : Nat)
  | evaluated (value : Float)
  | nothingToEvaluate
  | failed (expression : String) (fault : Fault)
  | calculated (expression result : String)
  | alphabetChosen (alphabet : String)
  | readingInput
  deriving DecidableEq

namespace Event

/-- Numbers in messages are written out in full, whole ones without a point. -/
def numberStyle : NumberStyle := ⟨none, false, false, 'e', "inf"⟩

def severity : Event → Severity
  | .meaningless _ | .unused _ | .failed .. => .warn
  | .calculated .. | .alphabetChosen _ => .info
  | _ => .debug

def source : Event → String
  | .scanning _ | .scanned _ => "infix_calc::tokenizer::core"
  | .ordered _ => "infix_calc::converter::core"
  | .meaningless _ => "infix_calc::evaluator::operator"
  | .applied .. | .unused _ | .evaluated _ => "infix_calc::evaluator::core"
  | .nothingToEvaluate | .failed .. | .calculated .. => "infix_calc::calculator::core"
  | .alphabetChosen _ | .readingInput => "infix_calc::cli"

def message : Event → String
  | .scanning expression => "Tokenizing expression: '" ++ expression ++ "'"
  | .scanned count => "Produced " ++ count.repr ++ " tokens"
  | .ordered texts => "Postfix: " ++ Listed.bracket texts
  | .meaningless symbol =>
    "Operator '" ++ symbol.toString ++ "' has no arithmetic meaning, substituting 0.0"
  | .applied left symbol right result =>
    numberStyle.text left ++ " " ++ symbol.toString ++ " " ++ numberStyle.text right ++ " = " ++
      numberStyle.text result
  | .unused count => count.repr ++ " values left unused on the stack"
  | .evaluated value => "Postfix evaluated to: " ++ numberStyle.text value
  | .nothingToEvaluate => "Empty expression, nothing to evaluate"
  | .failed expression fault => "Failed to evaluate '" ++ expression ++ "': " ++ fault.message
  | .calculated expression result => "'" ++ expression ++ "' = '" ++ result ++ "'"
  | .alphabetChosen alphabet => "Using operator alphabet '" ++ alphabet ++ "'"
  | .readingInput => "No expression given, reading from stdin"

def isRecorded (limit : Option Severity) (event : Event) : Bool :=
  limit.any fun least => event.severity.place ≤ least.place

def record (limit : Option Severity) (events : List Event) : List Event :=
  events.filter (isRecorded limit)

end Event
end Reckoner
