import Reckoner.Event

/-!
Events in the evaluation of an expression in reverse Polish order.
-/

namespace Reckoner.Rpn

/-- The events of one token: an operator that finds its two numbers is recorded with its result, after
a warning if it has no meaning. -/
def stepEvents (alphabet : String) (values : Stack Float) (token : Token) : List Event :=
  match token.operator? alphabet, values.topDown with
  | some symbol, right :: left :: _ =>
    let operator := Operator.ofSymbol symbol
    (if operator.hasMeaning then [] else [.meaningless symbol]) ++
      [.applied left symbol right (operator.apply left right)]
  | _, _ => []

def runEvents (alphabet : String) : Stack Float → List Token → List Event
  | _, [] => []
  | values, token :: rest =>
    stepEvents alphabet values token ++
      match step alphabet values token with
      | .ok next => runEvents alphabet next rest
      | .error _ => []

def closingEvents : Except Fault (Stack Float) → List Event
  | .ok ⟨x :: below⟩ => (if below.isEmpty then [] else [.unused below.length]) ++ [.evaluated x]
  | _ => []

def valueEvents (alphabet : String) (tokens : List Token) : List Event :=
  runEvents alphabet .empty tokens ++ closingEvents (run alphabet .empty tokens)

end Reckoner.Rpn
