import Reckoner.Display
import Reckoner.Listed
import Reckoner.Proofs.Number.Native
import Reckoner.Proofs.Number.Positional

/-! The range in which the display writes numbers out. Lists have a wider one and the same form in it. -/

namespace Reckoner.Display
open Binary64

/-- Positive zero and the numbers from `10 ^ -3` up to but not including `10 ^ 7`. Negative zero is a
different number. -/
def IsPlain (x : Float) : Prop :=
  x = 0 ∨ (1e-3 ≤ x ∧ x < 1e7)

instance (x : Float) : Decidable (IsPlain x) :=
  inferInstanceAs (Decidable (x = 0 ∨ (1e-3 ≤ x ∧ x < 1e7)))

/-- The pattern of `10 ^ -3`, which is above that power by less than a unit in the last place. -/
def leastPlain : Nat := 0x3f50624dd2f1a9fc

def abovePlain : Nat := 0x416312d000000000

theorem leastPlain_le_iff (pattern : Nat) : one ≤ units pattern * 10 ^ 3 ↔ leastPlain ≤ pattern := by
  have reaches : one ≤ units leastPlain * 10 ^ 3 := by decide +kernel
  have misses : units (leastPlain - 1) * 10 ^ 3 < one := by decide +kernel
  constructor
  · intro enough
    by_contra less
    have le : units pattern ≤ units (leastPlain - 1) := by
      rw [← Nat.not_lt, units_lt_units_iff]
      omega
    exact absurd enough (Nat.not_le.2 (Nat.lt_of_le_of_lt (Nat.mul_le_mul_right _ le) misses))
  · intro ge
    have le : units leastPlain ≤ units pattern := by
      rw [← Nat.not_lt, units_lt_units_iff]
      omega
    exact Nat.le_trans reaches (Nat.mul_le_mul_right _ le)

theorem lt_abovePlain_iff (pattern : Nat) : units pattern < one * 10 ^ 7 ↔ pattern < abovePlain := by
  have exact : one * 10 ^ 7 = units abovePlain := by decide +kernel
  rw [exact, units_lt_units_iff]

theorem units_eq_zero_iff (pattern : Nat) : units pattern = 0 ↔ pattern = 0 := by
  constructor
  · intro zero
    by_contra positive
    have above : units 0 < units pattern := units_lt_units (Nat.pos_of_ne_zero positive)
    omega
  · intro zero
    rw [zero]
    rfl

theorem isPositional_iff (pattern : Nat) :
    style.isPositional pattern = true ↔
      pattern = 0 ∨ (leastPlain ≤ pattern ∧ pattern < abovePlain) := by
  rw [← units_eq_zero_iff, ← leastPlain_le_iff, ← lt_abovePlain_iff]
  simp [NumberStyle.isPositional, style]

/-- The comparison of native numbers and that of exact magnitudes draw the same line. -/
theorem isPlain_iff (x : Float) :
    IsPlain x ↔ ∃ pattern, kind x = .finite false pattern ∧ style.isPositional pattern = true := by
  have low : kind 1e-3 = .finite false leastPlain := by decide +kernel
  have high : kind 1e7 = .finite false abovePlain := by decide +kernel
  rw [IsPlain, between_iff _ _ x _ _ low high (by decide)]
  constructor
  · intro plain
    rcases plain with zero | ⟨pattern, finite, range⟩
    · have sort : kind 0 = .finite false 0 := by decide +kernel
      exact ⟨0, zero ▸ sort, (isPositional_iff 0).2 (Or.inl rfl)⟩
    · exact ⟨pattern, finite, (isPositional_iff pattern).2 (Or.inr range)⟩
  · intro positional
    obtain ⟨pattern, finite, positional⟩ := positional
    rcases (isPositional_iff pattern).1 positional with rfl | range
    · have zero : ofPattern false 0 = 0 := by decide +kernel
      exact Or.inl ((ofPattern_of_kind x false 0 finite).symm.trans zero)
    · exact Or.inr ⟨pattern, finite, range⟩

theorem magnitudeText_positional (pattern : Nat) (positional : style.isPositional pattern = true) :
    style.magnitudeText pattern = (Decimal.shortest pattern).positionalText true := by
  have point : style.positionalPoint = true := rfl
  rw [NumberStyle.magnitudeText, if_pos positional, point]

theorem isPositional_numberStyle {pattern : Nat} (positional : style.isPositional pattern = true) :
    Listed.numberStyle.isPositional pattern = true := by
  simp only [NumberStyle.isPositional, style, Listed.numberStyle, Bool.or_eq_true, Bool.and_eq_true,
    beq_iff_eq, decide_eq_true_eq] at positional ⊢
  apply positional.imp_right
  intro range
  obtain ⟨least, greatest⟩ := range
  exact ⟨Nat.le_trans least (Nat.mul_le_mul_left _ (by decide)),
    Nat.lt_of_lt_of_le greatest (Nat.mul_le_mul_left _ (by decide))⟩

/-- A number that the display writes out looks as it does in a list. -/
theorem text_eq_entry (x : Float) (negative : Bool) (pattern : Nat)
    (finite : kind x = .finite negative pattern) (positional : style.isPositional pattern = true) :
    text x = Listed.entry x := by
  have listed := isPositional_numberStyle positional
  have point : Listed.numberStyle.positionalPoint = true := rfl
  change style.text x = Listed.numberStyle.text x
  rw [NumberStyle.text, NumberStyle.text, finite]
  dsimp only
  rw [magnitudeText_positional pattern positional, NumberStyle.magnitudeText, if_pos listed, point]

theorem magnitudeText_scientific (pattern : Nat) (scientific : style.isPositional pattern = false) :
    style.magnitudeText pattern = (Decimal.shortest pattern).scientificText true 'E' := by
  have point : style.scientificPoint = true := rfl
  have mark : style.mark = 'E' := rfl
  rw [NumberStyle.magnitudeText, if_neg (ne_true_of_eq_false scientific), point, mark]

theorem toList_text_of_isPlain (x : Float) (plain : IsPlain x) :
    ∃ d : Decimal, (text x).toList = d.positionalText true ∧ ofPattern false d.nearest = x := by
  obtain ⟨pattern, finite, positional⟩ := (isPlain_iff x).1 plain
  have inside := ((kind_eq_finite_iff x false pattern).1 finite).1
  refine ⟨Decimal.shortest pattern, ?_, ?_⟩
  · rw [text, NumberStyle.text, finite, String.toList_ofList]
    simp only [NumberStyle.signed, Bool.false_eq_true, if_false]
    rw [magnitudeText_positional pattern positional]
  · rw [Decimal.nearest_shortest inside, ofPattern_of_kind x false pattern finite]

theorem toList_text_of_not_isPlain (x : Float) (plain : ¬ IsPlain x) :
    (∃ c rest, (text x).toList = c :: rest ∧ Text.isNumeralChar c = false) ∨
      'E' ∈ (text x).toList := by
  rw [isPlain_iff] at plain
  rw [text, NumberStyle.text, String.toList_ofList]
  cases sort : kind x with
  | nan => exact Or.inl ⟨'N', _, rfl, by decide⟩
  | infinite negative =>
    cases negative with
    | false => exact Or.inl ⟨'I', _, by rfl, by decide⟩
    | true => exact Or.inl ⟨'-', _, rfl, by decide⟩
  | finite negative pattern =>
    cases negative with
    | true => exact Or.inl ⟨'-', _, rfl, by decide⟩
    | false =>
      right
      have scientific : style.isPositional pattern = false := by
        by_contra positional
        exact plain ⟨pattern, sort, Bool.not_eq_false _ ▸ positional⟩
      simp only [NumberStyle.signed, Bool.false_eq_true, if_false]
      rw [magnitudeText_scientific pattern scientific, Decimal.scientificText]
      simp

theorem text_ne_empty (x : Float) : text x ≠ "" := by
  intro empty
  by_cases plain : IsPlain x
  · obtain ⟨d, characters, _⟩ := toList_text_of_isPlain x plain
    obtain ⟨_, several, _⟩ := d.readChars?_positionalText
    rw [← characters, empty] at several
    exact absurd several (by decide)
  · rcases toList_text_of_not_isPlain x plain with ⟨c, rest, first, _⟩ | marked
    · rw [empty] at first
      cases first
    · rw [empty] at marked
      cases marked

end Reckoner.Display
