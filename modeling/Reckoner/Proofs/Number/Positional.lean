import Reckoner.Number.Style
import Reckoner.Proofs.Number.Plain

/-! Positional texts. A decimal with every place written is a numeral of digits around one point, and
it is read as a decimal of the same value. -/

namespace Reckoner.Decimal
open Numeral

/-- Digits before and after a point, some on each side, whose value is that of a decimal. -/
structure Spelled (d : Decimal) (whole fraction : List Char) : Prop where
  whole_ne_nil : whole ≠ []
  fraction_ne_nil : fraction ≠ []
  digits : ∀ c ∈ whole ++ fraction, c.isDigit = true
  value : ∃ k : Nat, digitsValue (whole ++ fraction) = d.coefficient * 10 ^ k ∧
    (fraction.length : Int) = k - d.exponent

theorem isDigit_of_mem_digits (d : Decimal) : ∀ c ∈ d.digits, c.isDigit = true :=
  fun _ member => Nat.isDigit_of_mem_toDigits (by decide) (by decide) member

theorem digits_ne_nil (d : Decimal) : d.digits ≠ [] :=
  Nat.toDigits_ne_nil

theorem digitsValue_digits (d : Decimal) : digitsValue d.digits = d.coefficient :=
  Nat.ofDigitChars_ten_toDigits

theorem digitsValue_append_zeros (cs : List Char) (k : Nat) :
    digitsValue (cs ++ List.replicate k '0') = digitsValue cs * 10 ^ k := by
  rw [digitsValue, Nat.ofDigitChars_append, Nat.ofDigitChars_replicate_zero, Nat.mul_comm]
  rfl

theorem digitsValue_zeros_append (cs : List Char) (k : Nat) :
    digitsValue (List.replicate k '0' ++ cs) = digitsValue cs := by
  rw [digitsValue, Nat.ofDigitChars_append, Nat.ofDigitChars_replicate_zero, Nat.mul_zero]
  rfl

theorem isDigit_of_mem_zeros (k : Nat) : ∀ c ∈ List.replicate k '0', c.isDigit = true := by
  intro c member
  rw [List.eq_of_mem_replicate member]
  rfl

theorem spelled_split (d : Decimal) (p : Nat) (place : d.pointPlace = (p + 1 : Nat))
    (inside : p + 1 < d.digits.length) :
    Spelled d (d.digits.take (p + 1)) (d.digits.drop (p + 1)) where
  whole_ne_nil := by
    apply List.ne_nil_of_length_pos
    rw [List.length_take]
    omega
  fraction_ne_nil := by
    apply List.ne_nil_of_length_pos
    rw [List.length_drop]
    omega
  digits := by
    rw [List.take_append_drop]
    exact d.isDigit_of_mem_digits
  value := by
    refine ⟨0, ?_, ?_⟩
    · rw [List.take_append_drop, digitsValue_digits, Nat.pow_zero, Nat.mul_one]
    · rw [pointPlace] at place
      rw [List.length_drop]
      omega

theorem spelled_whole (d : Decimal) (p : Nat) (place : d.pointPlace = (p + 1 : Nat))
    (outside : d.digits.length ≤ p + 1) :
    Spelled d (d.digits ++ List.replicate (p + 1 - d.digits.length) '0') ['0'] where
  whole_ne_nil := List.append_ne_nil_of_left_ne_nil d.digits_ne_nil _
  fraction_ne_nil := List.cons_ne_nil _ _
  digits := by
    intro c member
    rw [List.append_assoc, List.mem_append, ← List.replicate_succ'] at member
    exact member.elim (d.isDigit_of_mem_digits c) (isDigit_of_mem_zeros _ c)
  value := by
    refine ⟨p + 1 - d.digits.length + 1, ?_, ?_⟩
    · rw [List.append_assoc, ← List.replicate_succ', digitsValue_append_zeros, digitsValue_digits]
    · rw [pointPlace] at place
      rw [List.length_singleton]
      omega

theorem spelled_fraction (d : Decimal) (p : Nat) (place : d.pointPlace = -(p : Int)) :
    Spelled d ['0'] (List.replicate p '0' ++ d.digits) where
  whole_ne_nil := List.cons_ne_nil _ _
  fraction_ne_nil := List.append_ne_nil_of_right_ne_nil _ d.digits_ne_nil
  digits := by
    intro c member
    rw [List.singleton_append, ← List.cons_append, List.mem_append, ← List.replicate_succ] at member
    exact member.elim (isDigit_of_mem_zeros _ c) (d.isDigit_of_mem_digits c)
  value := by
    refine ⟨0, ?_, ?_⟩
    · rw [List.singleton_append, ← List.cons_append, ← List.replicate_succ, digitsValue_zeros_append,
        digitsValue_digits, Nat.pow_zero, Nat.mul_one]
    · rw [pointPlace] at place
      rw [List.length_append, List.length_replicate]
      omega

theorem joinPoint_of_ne_nil (keep : Bool) (whole fraction : List Char) (nonempty : fraction ≠ []) :
    joinPoint keep whole fraction = whole ++ '.' :: fraction := by
  simp [joinPoint, nonempty]

theorem exists_spelled (d : Decimal) :
    ∃ whole fraction, d.positionalText true = whole ++ '.' :: fraction ∧ d.Spelled whole fraction := by
  unfold positionalText
  split
  next p place =>
    by_cases inside : p + 1 < d.digits.length
    · have spelled := d.spelled_split p place inside
      have unpadded : p + 1 - d.digits.length = 0 := by omega
      rw [joinPoint_of_ne_nil true _ _ spelled.fraction_ne_nil, unpadded, List.replicate_zero,
        List.append_nil]
      exact ⟨_, _, rfl, spelled⟩
    · have all : d.digits.take (p + 1) = d.digits := List.take_of_length_le (by omega)
      have nothing : d.digits.drop (p + 1) = [] := List.drop_of_length_le (by omega)
      rw [all, nothing]
      exact ⟨_, _, rfl, d.spelled_whole p place (by omega)⟩
  next p other =>
    have before : d.pointPlace = -(d.pointPlace.natAbs : Int) := by
      cases place : d.pointPlace with
      | ofNat n =>
        cases n with
        | zero => rfl
        | succ p => exact absurd place (other p)
      | negSucc n => rfl
    have spelled := d.spelled_fraction _ before
    exact ⟨_, _, joinPoint_of_ne_nil true _ _ spelled.fraction_ne_nil, spelled⟩

theorem decimal?_point (whole fraction tail : List Char) (wholeDigits : ∀ c ∈ whole, c.isDigit = true)
    (fractionDigits : ∀ c ∈ fraction, c.isDigit = true) (nonempty : whole ≠ [])
    (ends : ∀ c ∈ tail.head?, c.isDigit = false) :
    Numeral.decimal? (whole ++ '.' :: (fraction ++ tail)) =
      (exponent? tail).map (Numeral.decimal whole fraction) := by
  have first : splitDigits (whole ++ '.' :: (fraction ++ tail)) = (whole, '.' :: (fraction ++ tail)) := by
    rw [splitDigits, List.takeWhile_append_of_pos wholeDigits, List.dropWhile_append_of_pos wholeDigits]
    simp
  have second : splitFraction ('.' :: (fraction ++ tail)) = (fraction, tail) := by
    rw [splitFraction, splitDigits, List.takeWhile_append_of_pos fractionDigits,
      List.dropWhile_append_of_pos fractionDigits]
    cases tail with
    | nil => simp
    | cons c rest => simp [ends c rfl]
  simp [Numeral.decimal?, first, second, nonempty]

namespace Spelled

variable {d : Decimal} {whole fraction : List Char} (spelled : d.Spelled whole fraction)
include spelled

theorem decimal? (tail : List Char) (exponent : Int) (scaled : exponent? tail = some exponent)
    (ends : ∀ c ∈ tail.head?, c.isDigit = false) :
    ∃ k : Nat, Numeral.decimal? (whole ++ '.' :: (fraction ++ tail)) =
      some ⟨d.coefficient * 10 ^ k, d.exponent + exponent - k⟩ := by
  obtain ⟨k, value, places⟩ := spelled.value
  refine ⟨k, ?_⟩
  rw [decimal?_point whole fraction tail
    (fun c member => spelled.digits c (List.mem_append_left _ member))
    (fun c member => spelled.digits c (List.mem_append_right _ member)) spelled.whole_ne_nil ends,
    scaled, Option.map_some, Numeral.decimal, value, places]
  congr 2
  omega

theorem numeral : ∀ c ∈ whole ++ '.' :: fraction, Text.isNumeralChar c = true := by
  intro c member
  rcases List.mem_append.mp member with inside | inside
  · exact Text.isNumeralChar_of_isDigit c (spelled.digits c (List.mem_append_left _ inside))
  · rcases List.mem_cons.mp inside with rfl | beyond
    · decide
    · exact Text.isNumeralChar_of_isDigit c (spelled.digits c (List.mem_append_right _ beyond))

theorem readChars? : Numeral.readChars? (whole ++ '.' :: fraction) =
    some (Binary64.ofPattern false d.nearest) := by
  obtain ⟨k, reads⟩ := spelled.decimal? [] 0 rfl (by simp)
  rw [List.append_nil, Int.add_zero] at reads
  rw [readChars?_of_numeral _ spelled.numeral, reads, Option.map_some, nearest_mul_ten_pow]

end Spelled

/-- A text with every place written is a run of several numeral characters, read as the number nearest
to its decimal. -/
theorem readChars?_positionalText (d : Decimal) :
    (∀ c ∈ d.positionalText true, Text.isNumeralChar c = true) ∧
      1 < (d.positionalText true).length ∧
      Numeral.readChars? (d.positionalText true) = some (Binary64.ofPattern false d.nearest) := by
  obtain ⟨whole, fraction, text, spelled⟩ := d.exists_spelled
  have wholeLength := List.length_pos_iff.2 spelled.whole_ne_nil
  rw [text]
  refine ⟨spelled.numeral, ?_, spelled.readChars?⟩
  rw [List.length_append, List.length_cons]
  omega

end Reckoner.Decimal
