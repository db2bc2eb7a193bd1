import Reckoner.Calculator
import Reckoner.Rpn.Transcript

/-!
Events in the use of a calculator.
-/

namespace Reckoner.Calculator

def rpnEvents (calculator : Calculator) (expression : String) : List Event :=
  [.scanning expression, .scanned (Token.scan expression).length,
    .ordered (calculator.rpnTexts expression)]

def evaluateEvents (calculator : Calculator) (expression : String) : List Event :=
  let tokens := calculator.rpn expression
  calculator.rpnEvents expression ++
    if tokens.isEmpty then [.nothingToEvaluate]
    else Rpn.valueEvents calculator.alphabet tokens ++
      match Rpn.value calculator.alphabet tokens with
      | .ok _ => []
      | .error fault => [.failed expression fault]

def calculateEvents (calculator : Calculator) (expression : String) : List Event :=
  calculator.evaluateEvents expression ++
    match calculator.calculate expression with
    | .ok result => [.calculated expression result]
    | .error _ => []

end Reckoner.Calculator
