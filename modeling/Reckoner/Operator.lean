import Reckoner.Listed
import Reckoner.Number.Remainder

/-!
Operators on two numbers. A symbol without a meaning is an operator too; its result is zero.
-/

namespace Reckoner

inductive Operator
  | add
  | subtract
  | multiply
  | divide
  | remainder
  | unknown (symbol : Char)
  deriving DecidableEq, Repr

namespace Operator

def ofSymbol (symbol : Char) : Operator :=
  match symbol with
  | '+' => .add
  | '-' => .subtract
  | '×' => .multiply
  | '÷' => .divide
  | '%' => .remainder
  | other => .unknown other

def apply : Operator → Float → Float → Float
  | .add, left, right => left + right
  | .subtract, left, right => left - right
  | .multiply, left, right => left * right
  | .divide, left, right => left / right
  | .remainder, left, right => Binary64.remainder left right
  | .unknown _, _, _ => 0

def hasMeaning : Operator → Bool
  | .unknown _ => false
  | _ => true

theorem hasMeaning_ofSymbol (c : Char) :
    (ofSymbol c).hasMeaning = true ↔ c ∈ ['+', '-', '×', '÷', '%'] := by
  unfold ofSymbol
  split
  all_goals simp_all [hasMeaning]

instance : Listed Operator where
  entry
    | .add => "Add"
    | .subtract => "Subtract"
    | .multiply => "Multiply"
    | .divide => "Divide"
    | .remainder => "Remainder"
    | .unknown symbol => "Unknown(" ++ Listed.entry symbol ++ ")"

end Operator
end Reckoner
