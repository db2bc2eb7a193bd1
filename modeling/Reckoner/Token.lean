import Reckoner.Listed

/-!
Tokens of an expression: numerals, kept as they are written, and symbols of one character.
-/

namespace Reckoner

inductive Token
  | number (text : String)
  | symbol (c : Char)
  deriving DecidableEq, Repr

namespace Token

def text : Token → String
  | .number text => text
  | .symbol c => c.toString

def isNumber : Token → Bool
  | .number _ => true
  | .symbol _ => false

def symbol? : Token → Option Char
  | .number _ => none
  | .symbol c => some c

@[simp] theorem text_number (text : String) : (number text).text = text := rfl

@[simp] theorem toList_text_symbol (c : Char) : (symbol c).text.toList = [c] := by
  simp [text, Char.toString]

@[simp] theorem isNumber_number (text : String) : (number text).isNumber = true := rfl

@[simp] theorem isNumber_symbol (c : Char) : (symbol c).isNumber = false := rfl

instance : Listed Token where
  entry
    | .number text => "Number(" ++ Listed.entry text ++ ")"
    | .symbol c => "Symbol(" ++ Listed.entry c ++ ")"

def operator? (alphabet : String) (token : Token) : Option Char :=
  match token.text.toList with
  | [c] => if c ∈ alphabet.toList then some c else none
  | _ => none

theorem operator?_symbol (alphabet : String) (c : Char) :
    (symbol c).operator? alphabet = if c ∈ alphabet.toList then some c else none := by
  simp [operator?]

theorem operator?_number_eq_none_iff (alphabet text : String) :
    (number text).operator? alphabet = none ↔ ∀ c ∈ alphabet.toList, text.toList ≠ [c] := by
  unfold operator?
  split
  next c only =>
    rw [text_number] at only
    split
    next member => simpa using ⟨c, member, only⟩
    next absent =>
      simp only [true_iff]
      intro other member same
      rw [only] at same
      exact absent (List.singleton_inj.1 same ▸ member)
  next several =>
    simp only [true_iff]
    exact fun c _ only => several c only

end Token
end Reckoner
