import Reckoner.Display
import Reckoner.Proofs.Number.Positional

/-! The characters of number texts: digits, a point, a sign, the mark of an exponent and the letters
of the words for what is no finite number. -/

namespace Reckoner

namespace Decimal

theorem mem_joinPoint (keep : Bool) (whole fraction : List Char) (c : Char)
    (member : c ∈ joinPoint keep whole fraction) :
    c ∈ whole ∨ c ∈ fraction ∨ c = '.' ∨ c = '0' := by
  unfold joinPoint at member
  split at member
  · simp only [List.mem_append, List.mem_cons] at member
    grind
  · split at member
    · simp only [List.mem_append, List.mem_cons, List.not_mem_nil, or_false] at member
      grind
    · exact Or.inl member

theorem mem_joinPoint_of_digits (keep : Bool) (whole fraction : List Char)
    (left : ∀ c ∈ whole, c.isDigit = true) (right : ∀ c ∈ fraction, c.isDigit = true) (c : Char)
    (member : c ∈ joinPoint keep whole fraction) : c.isDigit = true ∨ c = '.' := by
  rcases mem_joinPoint keep whole fraction c member with inside | inside | rfl | rfl
  · exact Or.inl (left c inside)
  · exact Or.inl (right c inside)
  · exact Or.inr rfl
  · exact Or.inl rfl

variable (d : Decimal)

end Decimal

theorem NumberStyle.mem_signed (negative : Bool) (cs : List Char) (c : Char)
    (member : c ∈ signed negative cs) : c = '-' ∨ c ∈ cs := by
  cases negative with
  | false => exact Or.inr member
  | true => exact List.mem_cons.mp member

end Reckoner
