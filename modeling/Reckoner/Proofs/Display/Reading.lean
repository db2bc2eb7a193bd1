import Reckoner.Number.Reading
import Reckoner.Proofs.Display.Range
import Reckoner.Proofs.Number.Scientific

/-! Results read back. The text of a result, in either form, is read as the number it shows, so the
display never shows two numbers alike. -/

namespace Reckoner.Display
open Binary64 Numeral

theorem spells_magnitudeText (pattern : Nat) :
    (Decimal.shortest pattern).Spells (style.magnitudeText pattern) := by
  by_cases positional : style.isPositional pattern = true
  · rw [magnitudeText_positional pattern positional]
    exact Decimal.spells_positionalText _
  · rw [magnitudeText_scientific pattern (Bool.not_eq_true _ ▸ positional)]
    exact Decimal.spells_scientificText _ 'E' (Or.inr rfl)

theorem readChars?_infinity (negative : Bool) :
    readChars? (NumberStyle.signed negative "Infinity".toList) = some (ofPattern negative infinity) := by
  cases negative with
  | false => rfl
  | true => rfl

theorem read?_text_of_number (x : Float) (number : x.isNaN = false) : read? (text x) = some x := by
  rw [read?, text, NumberStyle.text, String.toList_ofList]
  cases sort : kind x with
  | nan => exact absurd ((kind_eq_nan_iff x).1 sort) (ne_true_of_eq_false number)
  | infinite negative =>
    have word : style.infinity = "Infinity" := rfl
    dsimp only
    rw [word, readChars?_infinity, ofPattern_of_infinite x negative sort]
  | finite negative pattern =>
    have inside := ((kind_eq_finite_iff x negative pattern).1 sort).1
    dsimp only
    rw [(spells_magnitudeText pattern).readChars?_signed, Decimal.nearest_shortest inside,
      ofPattern_of_kind x negative pattern sort]

theorem read?_text_of_isNaN (x : Float) (nan : x.isNaN = true) :
    read? (text x) = some Binary64.nan := by
  rw [read?, text, NumberStyle.text, String.toList_ofList, (kind_eq_nan_iff x).2 nan]
  rfl

/-- The text of a number is read as the number itself, to the bit and so with its sign, and the text of
no number as no number. Two different numbers have different texts. -/
theorem read?_text :
    (∀ x : Float, x.isNaN = false → ∃ y, read? (text x) = some y ∧ y.toBits = x.toBits) ∧
      (∀ x : Float, x.isNaN = true → ∃ y, read? (text x) = some y ∧ y.isNaN = true) ∧
      ∀ x y : Float, x.isNaN = false → y.isNaN = false → x.toBits ≠ y.toBits → text x ≠ text y := by
  refine ⟨?_, ?_, ?_⟩
  · intro x number
    exact ⟨x, read?_text_of_number x number, rfl⟩
  · intro x nan
    exact ⟨Binary64.nan, read?_text_of_isNaN x nan, by decide +kernel⟩
  · intro x y xNumber yNumber different same
    have reads := read?_text_of_number x xNumber
    rw [same, read?_text_of_number y yNumber] at reads
    exact different (congrArg Float.toBits (Option.some.inj reads).symm)

theorem read?_text_of_least_and_zeros :
    (∃ y, text (Float.ofBits 1) = "5.0E-324" ∧ read? (text (Float.ofBits 1)) = some y ∧ y.toBits = 1) ∧
      (∃ y, read? (text (0 / 0)) = some y ∧ y.isNaN = true) ∧ text 0 ≠ text (-0.0) := by
  obtain ⟨numbers, nan, different⟩ := read?_text
  have least : text (Float.ofBits 1) = "5.0E-324" := by decide +kernel
  obtain ⟨y, reads, bits⟩ := numbers (Float.ofBits 1) (by decide +kernel)
  exact ⟨⟨y, least, reads, bits.trans (by decide +kernel)⟩, nan (0 / 0) (by decide +kernel),
    different 0 (-0.0) (by decide +kernel) (by decide +kernel) (by decide +kernel)⟩

end Reckoner.Display
