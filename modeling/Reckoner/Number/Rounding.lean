import Reckoner.Number.Binary64

/-!
Rounding to the nearest binary64 magnitude. A ratio of naturals, in units, is cut to 53 significant
bits, or to whole units when it is small; a tie goes to the even significand.
-/

namespace Reckoner.Binary64

def roundHalfEven (num den : Nat) : Nat :=
  let whole := num / den
  let twice := 2 * (num % den)
  if twice < den ∨ (twice = den ∧ whole % 2 = 0) then whole else whole + 1

/-- The pattern nearest to `num / den` units, infinity from half a step above the greatest. -/
def nearest (num den : Nat) : Nat :=
  let places := (num / den).log2 - 52
  min (places * 2 ^ 52 + roundHalfEven num (den * 2 ^ places)) infinity

theorem roundHalfEven_mul (n : Nat) {den : Nat} (h : 0 < den) : roundHalfEven (n * den) den = n := by
  simp [roundHalfEven, Nat.mul_div_cancel _ h, h]

theorem le_roundHalfEven (num den : Nat) : num / den ≤ roundHalfEven num den := by
  unfold roundHalfEven
  dsimp only
  split <;> omega

theorem roundHalfEven_scale (num den : Nat) {k : Nat} (h : 0 < k) :
    roundHalfEven (num * k) (den * k) = roundHalfEven num den := by
  unfold roundHalfEven
  rw [Nat.mul_div_mul_right _ _ h, Nat.mul_mod_mul_right, ← Nat.mul_assoc]
  simp only [Nat.mul_lt_mul_right h, Nat.mul_left_inj (Nat.ne_of_gt h)]

theorem nearest_scale (num den : Nat) {k : Nat} (h : 0 < k) :
    nearest (num * k) (den * k) = nearest num den := by
  unfold nearest
  dsimp only
  rw [Nat.mul_div_mul_right _ _ h, Nat.mul_right_comm den k, roundHalfEven_scale _ _ h]

theorem log2_units (pattern : Nat) : (units pattern).log2 - 52 = shift pattern := by
  unfold units
  have upper := significand_lt pattern
  by_cases shifted : 0 < shift pattern
  · have lower := le_significand shifted
    have positive : 0 < significand pattern * 2 ^ shift pattern :=
      Nat.mul_pos (by omega) (Nat.two_pow_pos _)
    have : (significand pattern * 2 ^ shift pattern).log2 = 52 + shift pattern := by
      rw [Nat.log2_eq_iff (Nat.ne_of_gt positive)]
      constructor
      · rw [Nat.pow_add]
        exact Nat.mul_le_mul_right _ lower
      · rw [show 52 + shift pattern + 1 = 53 + shift pattern by omega, Nat.pow_add]
        exact Nat.mul_lt_mul_of_pos_right upper (Nat.two_pow_pos _)
    omega
  · rw [Nat.eq_zero_of_not_pos shifted, Nat.pow_zero, Nat.mul_one]
    by_cases zero : significand pattern = 0
    · rw [zero]; rfl
    · have := (Nat.log2_lt zero).2 upper
      omega

theorem nearest_units {pattern den : Nat} (finite : pattern < infinity) (h : 0 < den) :
    nearest (units pattern * den) den = pattern := by
  have grid : units pattern * den = significand pattern * (den * 2 ^ shift pattern) := by
    rw [units, Nat.mul_assoc, Nat.mul_comm (2 ^ _)]
  unfold nearest
  dsimp only
  rw [Nat.mul_div_cancel _ h, log2_units, grid,
    roundHalfEven_mul _ (Nat.mul_pos h (Nat.two_pow_pos _)), shift_add_significand]
  exact Nat.min_eq_left (Nat.le_of_lt finite)

theorem nearest_eq_zero {num den : Nat} (small : 2 * num < den) : nearest num den = 0 := by
  have whole : num / den = 0 := Nat.div_eq_of_lt (by omega)
  have rest : num % den = num := Nat.mod_eq_of_lt (by omega)
  simp [nearest, roundHalfEven, whole, rest, small]

theorem nearest_eq_infinity {num den bits : Nat} (h : 0 < den) (high : 2098 ≤ bits)
    (large : den * 2 ^ bits ≤ num) : nearest num den = infinity := by
  have whole : 2 ^ bits ≤ num / den := by
    rw [Nat.le_div_iff_mul_le h, Nat.mul_comm]
    exact large
  have nonzero : num / den ≠ 0 := Nat.ne_of_gt (Nat.lt_of_lt_of_le (Nat.two_pow_pos _) whole)
  have length : bits ≤ (num / den).log2 := (Nat.le_log2 nonzero).2 whole
  have top : 2 ^ 52 ≤ num / (den * 2 ^ ((num / den).log2 - 52)) := by
    rw [← Nat.div_div_eq_div_mul, Nat.le_div_iff_mul_le (Nat.two_pow_pos _), ← Nat.pow_add,
      show 52 + ((num / den).log2 - 52) = (num / den).log2 by omega]
    exact Nat.log2_self_le nonzero
  have rounded := Nat.le_trans top (le_roundHalfEven _ _)
  have places : 2046 * 2 ^ 52 ≤ ((num / den).log2 - 52) * 2 ^ 52 :=
    Nat.mul_le_mul_right _ (by omega)
  unfold nearest infinity
  exact Nat.min_eq_right (by omega)

end Reckoner.Binary64
