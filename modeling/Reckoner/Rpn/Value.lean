import Reckoner.Number.Reading
import Reckoner.Operator
import Reckoner.Stack
import Reckoner.Token

/-!
Values of expressions in reverse Polish order, computed on a stack of numbers. Any list of tokens is
accepted; a fault is reported at the first token that causes one.
-/

namespace Reckoner

inductive Fault
  | underflow (cause : Stack.Underflow)
  | invalidNumber (text : String)
  deriving DecidableEq, Repr

namespace Fault

def message : Fault → String
  | .underflow cause => "Malformed expression: " ++ cause.message
  | .invalidNumber text => "Cannot parse '" ++ text ++ "' as a number"

def chain (fault : Fault) : List String :=
  match fault with
  | .underflow cause => [fault.message, cause.message]
  | .invalidNumber _ => [fault.message]

end Fault

namespace Rpn

/-- The stack after one token: an operator of the alphabet replaces the two topmost numbers by its
result, and every other token is read as a number. -/
def step (alphabet : String) (values : Stack Float) (token : Token) : Except Fault (Stack Float) :=
  match token.operator? alphabet, values.topDown with
  | some symbol, right :: left :: below =>
    .ok ⟨(Operator.ofSymbol symbol).apply left right :: below⟩
  | some _, _ => .error (.underflow .pop)
  | none, below =>
    match Numeral.read? token.text with
    | some x => .ok ⟨x :: below⟩
    | none => .error (.invalidNumber token.text)

def run (alphabet : String) : Stack Float → List Token → Except Fault (Stack Float)
  | values, [] => .ok values
  | values, token :: rest =>
    match step alphabet values token with
    | .ok next => run alphabet next rest
    | .error fault => .error fault

theorem run_append (alphabet : String) (values : Stack Float) (front back : List Token) :
    run alphabet values (front ++ back) =
      (run alphabet values front).bind fun next => run alphabet next back := by
  induction front generalizing values with
  | nil => rfl
  | cons token rest ih =>
    simp only [List.cons_append, run]
    split
    · exact ih _
    · rfl

def value (alphabet : String) (tokens : List Token) : Except Fault Float :=
  match run alphabet .empty tokens with
  | .ok ⟨x :: _⟩ => .ok x
  | .ok ⟨[]⟩ => .error (.underflow .pop)
  | .error fault => .error fault

end Rpn
end Reckoner
