import Reckoner.Display
import Reckoner.Rpn.Order
import Reckoner.Rpn.Value
import Reckoner.Token.Scan

/-!
Calculators of flat expressions: numerals and operators of two operands, without parentheses.
-/

namespace Reckoner

/-- An alphabet of operators and a ranking of symbols. The alphabet need not be ranked. -/
structure Calculator where
  alphabet : String
  ranking : Ranking

namespace Calculator

def standardAlphabet : String := "+-×÷%"

def standard : Calculator := ⟨standardAlphabet, .standard⟩

def rpn (calculator : Calculator) (expression : String) : List Token :=
  Rpn.ofInfix calculator.ranking (Token.scan expression)

def rpnTexts (calculator : Calculator) (expression : String) : List String :=
  (calculator.rpn expression).map Token.text

/-- The value of an expression; an expression without tokens has none and is no fault. -/
def evaluate (calculator : Calculator) (expression : String) : Except Fault (Option Float) :=
  let tokens := calculator.rpn expression
  if tokens.isEmpty then .ok none else (Rpn.value calculator.alphabet tokens).map some

def calculate (calculator : Calculator) (expression : String) : Except Fault String :=
  (calculator.evaluate expression).map fun value => value.elim "" Display.text

def faultMessage (fault : Fault) : String :=
  "Evaluation error: " ++ fault.message

end Calculator
end Reckoner
