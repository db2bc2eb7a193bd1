import Reckoner.Console.Run
import Reckoner.Proofs.Calculator.Faults
import Reckoner.Proofs.Calculator.Redisplay
import Reckoner.Proofs.Calculator.Transcript
import Reckoner.Proofs.Number.Characters
import Reckoner.Proofs.Text.Lines

/-! Answers to expressions: the lines that are printed, and a complaint in place of a result, right after
the record of its fault. An expression on one line is answered in whole lines. -/

namespace Reckoner
open Text

namespace Calculator

variable (calculator : Calculator) (expression : String) {c : Char}

end Calculator

namespace Console

/-- The lines printed for an expression: its reverse Polish form if that is asked for, and its result if
it has one. -/
def Settings.printed (settings : Settings) (expression : String) : List String :=
  (if settings.showRpn then [" ".intercalate (settings.calculator.rpnTexts expression)] else []) ++
    (settings.calculator.calculate expression).toOption.toList

def Settings.complaint? (settings : Settings) (expression : String) : Option String :=
  match settings.calculator.calculate expression with
  | .ok _ => none
  | .error fault =>
    some ("Error: " ++ ": ".intercalate
      (("Failed to evaluate '" ++ expression ++ "'") :: Calculator.faultMessage fault :: fault.chain))

def Report.complaint? : Report → Option String
  | .event _ => none
  | .failure messages => some ("Error: " ++ ": ".intercalate messages)

variable (settings : Settings) (expression : String)

theorem output_answer : (answer settings expression).output = settings.printed expression := by
  rw [answer, Settings.printed]
  cases settings.calculator.calculate expression with
  | ok result => rfl
  | error fault => simp [Except.toOption]

theorem failed_answer : (answer settings expression).failed = (settings.complaint? expression).isSome := by
  rw [answer, Settings.complaint?]
  cases settings.calculator.calculate expression with
  | ok result => rfl
  | error fault => rfl

theorem complaint?_eq_none_iff :
    settings.complaint? expression = none ↔
      ∃ result, settings.calculator.calculate expression = .ok result := by
  rw [Settings.complaint?]
  cases settings.calculator.calculate expression with
  | ok result => simp
  | error fault => simp

end Console
end Reckoner
