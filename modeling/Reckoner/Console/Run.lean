import Reckoner.Calculator.Transcript
import Reckoner.Console.Outcome
import Reckoner.Text.Lines

/-!
Runs of the program: on the expression among the arguments, or on every line of the input if there is
none.
-/

namespace Reckoner.Console

structure Settings where
  alphabet : String
  showRpn : Bool
  severity : Severity
  deriving DecidableEq, Repr

namespace Settings

def calculator (settings : Settings) : Calculator :=
  ⟨settings.alphabet, .standard⟩

def record (settings : Settings) (events : List Event) : List Report :=
  (Event.record (some settings.severity) events).map .event

end Settings

structure Answer where
  output : List String
  reports : List Report
  failed : Bool
  deriving DecidableEq

/-- The answer to an expression: its reverse Polish form if that is asked for, its result, and the
fault with its causes if it has none. -/
def answer (settings : Settings) (expression : String) : Answer :=
  let calculator := settings.calculator
  let rpnLines := if settings.showRpn then [" ".intercalate (calculator.rpnTexts expression)] else []
  let rpnEvents := if settings.showRpn then calculator.rpnEvents expression else []
  let reports := settings.record (rpnEvents ++ calculator.calculateEvents expression)
  match calculator.calculate expression with
  | .ok result => ⟨rpnLines ++ [result], reports, false⟩
  | .error fault =>
    let messages :=
      ("Failed to evaluate '" ++ expression ++ "'") :: Calculator.faultMessage fault :: fault.chain
    ⟨rpnLines, reports ++ [.failure messages], true⟩

def opening (settings : Settings) : List Report :=
  settings.record [.alphabetChosen settings.alphabet]

def runExpression (settings : Settings) (expression : String) : Outcome :=
  let result := answer settings expression
  ⟨if result.failed then 1 else 0, result.output, opening settings ++ result.reports⟩

def readLines : List (List UInt8) → List String × Bool
  | [] => ([], false)
  | line :: rest =>
    match Text.decodeLine? line with
    | none => ([], true)
    | some text =>
      let (texts, broken) := readLines rest
      (text :: texts, broken)

/-- How many of the answers are failures, in 32 bits that wrap around. -/
def countFailures (answers : List Answer) : Int32 :=
  answers.foldl (fun failures answer => if answer.failed then failures + 1 else failures) 0

def closing (failures : Int32) (broken : Bool) : List Report :=
  if broken then [.failure ["Failed to read from stdin", "stream did not contain valid UTF-8"]]
  else if 0 < failures then
    [.failure [failures.toInt.repr ++ " expression(s) failed to evaluate"]]
  else []

def runInput (settings : Settings) (input : List UInt8) : Outcome :=
  let (texts, broken) := readLines (Text.splitLines input)
  let answers := texts.map (answer settings)
  let failures := countFailures answers
  ⟨if broken || 0 < failures then 1 else 0,
    answers.flatMap Answer.output,
    opening settings ++ settings.record [.readingInput] ++ answers.flatMap Answer.reports ++
      closing failures broken⟩

end Reckoner.Console
