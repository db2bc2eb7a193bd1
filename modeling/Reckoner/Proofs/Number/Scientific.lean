import Reckoner.Proofs.Number.Positional

/-! Scientific texts and signs. A decimal in scientific form is a positional text of its digits and an
exponent, and it is read as a decimal of the same value; a sign before digits is read apart from them. -/

namespace Reckoner

namespace Numeral
open Text

theorem splitSign_of_isDigit (c : Char) (rest : List Char) (digit : c.isDigit = true) :
    splitSign (c :: rest) = (false, c :: rest) := by
  unfold splitSign
  split
  next same => exact absurd ((List.cons.inj same).1 ▸ digit) (by decide)
  next same => exact absurd ((List.cons.inj same).1 ▸ digit) (by decide)
  next => rfl

/-- Digits begin no word, so a text that begins with one is read as a decimal, after its sign. -/
theorem readChars?_signed (negative : Bool) (c : Char) (rest : List Char) (digit : c.isDigit = true) :
    readChars? (NumberStyle.signed negative (c :: rest)) =
      (decimal? (c :: rest)).map fun d => Binary64.ofPattern negative d.nearest := by
  apply readChars?_of_splitSign
  · cases negative with
    | false => exact splitSign_of_isDigit c rest digit
    | true => rfl
  · intro first same
    cases same
    exact no_word_of_isNumeralChar c (isNumeralChar_of_isDigit c digit)

theorem exponent?_of_digits (mark : Char) (marks : mark = 'e' ∨ mark = 'E') (tail digits : List Char)
    (negative : Bool) (split : splitSign tail = (negative, digits)) (nonempty : digits ≠ [])
    (all : ∀ c ∈ digits, c.isDigit = true) :
    exponent? (mark :: tail) =
      some (if negative then -(digitsValue digits : Int) else digitsValue digits) := by
  have accepted : (digits.isEmpty || !digits.all Char.isDigit) = false := by
    rw [List.all_eq_true.2 all, List.isEmpty_eq_false_iff.2 nonempty]
    rfl
  simp only [exponent?, marks, split, accepted, if_true, Bool.false_eq_true, if_false]

theorem exponent?_exponentText (mark : Char) (marks : mark = 'e' ∨ mark = 'E') (e : Int) :
    exponent? (mark :: Decimal.exponentText e) = some e := by
  have digits : ∀ n, ∀ c ∈ Nat.toDigits 10 n, c.isDigit = true := fun _ _ inside =>
    Nat.isDigit_of_mem_toDigits (by decide) (by decide) inside
  have value : ∀ n, digitsValue (Nat.toDigits 10 n) = n := fun _ => Nat.ofDigitChars_ten_toDigits
  cases e with
  | ofNat n =>
    have unsigned : splitSign (Nat.toDigits 10 n) = (false, Nat.toDigits 10 n) :=
      splitSign_of_numeral _ fun c member => isNumeralChar_of_isDigit c (digits n c member)
    rw [Decimal.exponentText, exponent?_of_digits mark marks _ _ _ unsigned Nat.toDigits_ne_nil
      (digits n), value]
    rfl
  | negSucc n =>
    rw [Decimal.exponentText, exponent?_of_digits mark marks _ (Nat.toDigits 10 (n + 1)) true rfl
      Nat.toDigits_ne_nil (digits (n + 1)), value]
    rfl

end Numeral

namespace Decimal
open Numeral

/-- The number that a text without a sign is read as is the nearest one to a decimal. -/
structure Spells (d : Decimal) (text : List Char) : Prop where
  first : ∃ c rest, text = c :: rest ∧ c.isDigit = true
  value : ∃ k : Nat, Numeral.decimal? text = some ⟨d.coefficient * 10 ^ k, d.exponent - k⟩

theorem Spells.readChars?_signed {d : Decimal} {text : List Char} (spells : d.Spells text)
    (negative : Bool) :
    readChars? (NumberStyle.signed negative text) = some (Binary64.ofPattern negative d.nearest) := by
  obtain ⟨c, rest, rfl, digit⟩ := spells.first
  obtain ⟨k, reads⟩ := spells.value
  rw [Numeral.readChars?_signed negative c rest digit, reads, Option.map_some, nearest_mul_ten_pow]

theorem Spelled.first {d : Decimal} {whole fraction : List Char} (spelled : d.Spelled whole fraction)
    (tail : List Char) : ∃ c rest, whole ++ tail = c :: rest ∧ c.isDigit = true := by
  obtain ⟨c, rest, rfl⟩ := List.exists_cons_of_ne_nil spelled.whole_ne_nil
  exact ⟨c, rest ++ tail, rfl, spelled.digits c List.mem_cons_self⟩

def scaled (d : Decimal) : Decimal :=
  ⟨d.coefficient, 1 - d.digits.length⟩

theorem scientificText_eq (d : Decimal) (keep : Bool) (mark : Char) :
    d.scientificText keep mark =
      d.scaled.positionalText keep ++ mark :: exponentText (d.pointPlace - 1) := by
  have digits : d.scaled.digits = d.digits := rfl
  have place : d.scaled.pointPlace = Int.ofNat (0 + 1) := by
    rw [pointPlace, digits, scaled, Int.ofNat_eq_natCast]
    dsimp only
    omega
  have some_digit := List.length_pos_iff.2 d.digits_ne_nil
  have unpadded : 0 + 1 - d.digits.length = 0 := by omega
  rw [scientificText, positionalText, place, digits]
  dsimp only
  rw [unpadded, List.replicate_zero, List.append_nil]

theorem spells_positionalText (d : Decimal) : d.Spells (d.positionalText true) := by
  obtain ⟨whole, fraction, text, spelled⟩ := d.exists_spelled
  obtain ⟨k, reads⟩ := spelled.decimal? [] 0 rfl (by simp)
  rw [List.append_nil, Int.add_zero] at reads
  exact ⟨text ▸ spelled.first _, k, text ▸ reads⟩

theorem spells_scientificText (d : Decimal) (mark : Char) (marks : mark = 'e' ∨ mark = 'E') :
    d.Spells (d.scientificText true mark) := by
  obtain ⟨whole, fraction, text, spelled⟩ := d.scaled.exists_spelled
  have ends : mark.isDigit = false := by
    rcases marks with rfl | rfl
    · rfl
    · rfl
  obtain ⟨k, reads⟩ := spelled.decimal? (mark :: exponentText (d.pointPlace - 1)) _
    (exponent?_exponentText mark marks _) (by simpa using ends)
  have exponent : d.scaled.exponent + (d.pointPlace - 1) = d.exponent := by
    rw [scaled, pointPlace]
    dsimp only
    omega
  rw [exponent] at reads
  rw [scientificText_eq, text, List.append_assoc, List.cons_append]
  exact ⟨spelled.first _, k, reads⟩

end Decimal
end Reckoner
