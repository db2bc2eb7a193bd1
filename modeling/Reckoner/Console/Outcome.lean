import Reckoner.Event
import Reckoner.Text.ControlSequence

/-!
What a run of the program leaves behind: an exit status, lines of output and reports of errors.
-/

namespace Reckoner.Console

inductive Report
  | event (event : Event)
  | failure (messages : List String)
  deriving DecidableEq

namespace Report

def indent (message : String) : String :=
  String.ofList <| message.toList.flatMap fun c => if c = '\n' then "\n    ".toList else [c]

def paddedLabel (severity : Severity) : String :=
  severity.label ++ String.ofList (List.replicate (5 - severity.label.length) ' ')

/-- The line of an event: its label, its source and its message. The time that stands before them is
left out, and the environment is taken to set neither a filter nor a style for the log. -/
def logLine (event : Event) : String :=
  "[" ++ paddedLabel event.severity ++ " " ++ event.source ++ "] " ++ indent event.message ++ "\n"

/-- The text of an entry. An event is written without its control sequences, and one that does not
end takes the end of the line along; a failure is written as it is, with its causes after it. -/
def text : Report → String
  | .event e => Text.withoutControls (logLine e)
  | .failure messages => "Error: " ++ ": ".intercalate messages ++ "\n"

end Report

structure Outcome where
  status : UInt32
  output : List String
  reports : List Report
  deriving DecidableEq

namespace Outcome

def outputText (outcome : Outcome) : String :=
  String.join (outcome.output.map fun line => line ++ "\n")

def errorText (outcome : Outcome) : String :=
  String.join (outcome.reports.map Report.text)

end Outcome
end Reckoner.Console
