import Mathlib
import Reckoner.Number.Rounding

/-! Rounding is monotone, so what is read as one number is an interval: whatever lies between two
ratios that are rounded to a pattern is rounded to it as well. -/

namespace Reckoner.Binary64

theorem roundHalfEven_le (num den : Nat) : roundHalfEven num den ≤ num / den + 1 := by
  unfold roundHalfEven
  dsimp only
  split
  · omega
  · omega

theorem roundHalfEven_mono {low high : Nat} (den : Nat) (le : low ≤ high) :
    roundHalfEven low den ≤ roundHalfEven high den := by
  have floors : low / den ≤ high / den := Nat.div_le_div_right le
  rcases Nat.lt_or_eq_of_le floors with apart | same
  · calc roundHalfEven low den ≤ low / den + 1 := roundHalfEven_le low den
      _ ≤ high / den := apart
      _ ≤ roundHalfEven high den := le_roundHalfEven high den
  · -- On one floor the larger ratio has the larger remainder, and only remainders decide.
    have rests : low % den ≤ high % den := by
      have left := Nat.div_add_mod low den
      have right := Nat.div_add_mod high den
      rw [same] at left
      omega
    unfold roundHalfEven
    dsimp only
    rw [same]
    split
    · split
      · omega
      · omega
    · split
      · omega
      · omega

/-- The quotient by the last place kept has at most 53 bits, and exactly that many if a place is
dropped. -/
theorem quotient_bounds (num den : Nat) :
    num / (den * 2 ^ ((num / den).log2 - 52)) < 2 ^ 53 ∧
      (0 < (num / den).log2 - 52 → 2 ^ 52 ≤ num / (den * 2 ^ ((num / den).log2 - 52))) := by
  rw [← Nat.div_div_eq_div_mul]
  obtain ⟨whole, quotient⟩ : ∃ whole, num / den = whole := ⟨_, rfl⟩
  rw [quotient]
  constructor
  · rw [Nat.div_lt_iff_lt_mul (Nat.two_pow_pos _), ← Nat.pow_add]
    calc whole < 2 ^ (whole.log2 + 1) := Nat.lt_log2_self
      _ ≤ 2 ^ (53 + (whole.log2 - 52)) := Nat.pow_le_pow_right (by decide) (by omega)
  · intro dropped
    have nonzero : whole ≠ 0 := by
      rintro rfl
      simp at dropped
    rw [Nat.le_div_iff_mul_le (Nat.two_pow_pos _), ← Nat.pow_add,
      show 52 + (whole.log2 - 52) = whole.log2 by omega]
    exact Nat.log2_self_le nonzero

theorem log2_mono {m n : Nat} (le : m ≤ n) : m.log2 ≤ n.log2 := by
  rcases Nat.eq_zero_or_pos m with rfl | positive
  · simp
  · exact (Nat.le_log2 (by omega)).2 (Nat.le_trans (Nat.log2_self_le (by omega)) le)

theorem nearest_mono {low high : Nat} (den : Nat) (le : low ≤ high) :
    nearest low den ≤ nearest high den := by
  have places : (low / den).log2 - 52 ≤ (high / den).log2 - 52 :=
    Nat.sub_le_sub_right (log2_mono (Nat.div_le_div_right le)) 52
  unfold nearest
  dsimp only
  refine min_le_min_right infinity ?_
  rcases Nat.lt_or_eq_of_le places with fewer | same
  · -- Where the larger ratio drops more places, a whole binade lies between the two patterns.
    have below := (quotient_bounds low den).1
    have above := (quotient_bounds high den).2 (by omega)
    have up := roundHalfEven_le low (den * 2 ^ ((low / den).log2 - 52))
    have down := le_roundHalfEven high (den * 2 ^ ((high / den).log2 - 52))
    omega
  · rw [same]
    exact Nat.add_le_add_left (roundHalfEven_mono _ le) _

theorem nearest_eq_of_between {low exact high den pattern : Nat} (below : low ≤ exact)
    (above : exact ≤ high) (left : nearest low den = pattern) (right : nearest high den = pattern) :
    nearest exact den = pattern :=
  Nat.le_antisymm (right ▸ nearest_mono den above) (left ▸ nearest_mono den below)

end Reckoner.Binary64
