import Reckoner.Proofs.Number.Native

/-! Native rounding of what needs none. A mantissa and an exponent whose product is a finite magnitude
are brought to the significand and the shift of its pattern, and no bit is lost on the way. -/

open Float.Model Float.Model.UnpackedFloat

namespace Reckoner.Binary64

theorem log2_mul_two_pow (m k : Nat) (positive : 0 < m) : (m * 2 ^ k).log2 = m.log2 + k := by
  rw [Nat.log2_eq_iff (Nat.ne_of_gt (Nat.mul_pos positive (Nat.two_pow_pos k)))]
  constructor
  · rw [Nat.pow_add]
    exact Nat.mul_le_mul_right _ (Nat.log2_self_le (Nat.ne_of_gt positive))
  · rw [show m.log2 + k + 1 = m.log2 + 1 + k by omega, Nat.pow_add]
    exact Nat.mul_lt_mul_of_pos_right Nat.lt_log2_self (Nat.two_pow_pos k)

section Pattern
variable {pattern mantissa k : Nat} (positive : 0 < pattern)
  (same : units pattern = mantissa * 2 ^ k)
include positive same

theorem mantissa_pos : 0 < mantissa := by
  have magnitude := units_lt_units positive
  rcases Nat.eq_zero_or_pos mantissa with rfl | above
  · rw [same, Nat.zero_mul] at magnitude
    omega
  · exact above

theorem targetExponent_eq :
    Format.binary64.targetExponent (totalExponent mantissa (k - 1074)) = shift pattern - 1074 := by
  have bits := log2_units pattern
  rw [same, log2_mul_two_pow mantissa k (mantissa_pos positive same)] at bits
  simp only [Format.targetExponent, totalExponent, Format.mantissaBits, Format.minExponent]
  norm_num
  omega

end Pattern

theorem shiftRight_exact (m n : Nat) :
    ExtendedMantissa.mk (m * 2 ^ n) false false >>> n = ExtendedMantissa.mk m false false := by
  change n.repeat ExtendedMantissa.shiftRightOne _ = _
  induction n generalizing m with
  | zero => simp [Nat.repeat]
  | succ n ih =>
    have double : m * 2 ^ (n + 1) = m * 2 * 2 ^ n := by
      rw [Nat.pow_succ]
      ac_rfl
    rw [Nat.repeat, double, ih]
    simp [ExtendedMantissa.shiftRightOne]

section Rounding
variable {pattern mantissa k : Nat} (positive : 0 < pattern)
  (same : units pattern = mantissa * 2 ^ k)
include positive same

theorem shiftToTargetExponent_eq (le : k ≤ shift pattern) :
    shiftToTargetExponent Format.binary64 mantissa (k - 1074) .exact =
      (ExtendedMantissa.mk (significand pattern) false false, (shift pattern : Int) - 1074) := by
  obtain ⟨places, split⟩ := Nat.exists_eq_add_of_le le
  have whole : mantissa = significand pattern * 2 ^ places := by
    rw [units, split, Nat.pow_add, ← Nat.mul_assoc, Nat.mul_right_comm] at same
    exact (Nat.mul_right_cancel (Nat.two_pow_pos k) same).symm
  have amount : ((shift pattern : Int) - 1074 - (k - 1074)).toNat = places := by omega
  rw [shiftToTargetExponent, targetExponent_eq positive same, shiftToExponent, amount]
  refine Prod.ext ?_ ?_
  · dsimp only
    rw [whole]
    exact shiftRight_exact (significand pattern) places
  · dsimp only
    omega

theorem roundWithAccuracy_exact (negative : Bool) (le : k ≤ shift pattern) :
    roundWithAccuracy Format.binary64 (signOf negative) mantissa (k - 1074) .exact =
      (Kind.finite negative pattern).unpacked := by
  have leading : significand pattern ≠ 0 :=
    Nat.ne_of_gt ((significand_pos_iff pattern).2 positive)
  obtain ⟨_, unpacked⟩ := unpacked_pos negative pattern positive
  have again : ExtendedMantissa.roundedMantissa ⟨significand pattern, false, false⟩ =
      significand pattern := rfl
  rw [roundWithAccuracy, shiftToTargetExponent_eq positive same le]
  dsimp only
  rw [again, shiftToTargetExponent_eq positive rfl (Nat.le_refl _), unpacked]
  exact dif_neg leading

theorem round_exact (negative : Bool) :
    UnpackedFloat.round Format.binary64 (signOf negative) mantissa (k - 1074) =
      (Kind.finite negative pattern).unpacked := by
  obtain ⟨places, amount⟩ : ∃ places, k - shift pattern = places := ⟨_, rfl⟩
  have difference : ((k : Int) - 1074 - (shift pattern - 1074)).toNat = places := by omega
  have exponent : (k : Int) - 1074 - places = ((k - places : Nat) : Int) - 1074 := by omega
  have finer : units pattern = mantissa <<< places * 2 ^ (k - places) := by
    rw [same, Nat.shiftLeft_eq, Nat.mul_assoc, ← Nat.pow_add, Nat.add_sub_cancel' (by omega)]
  unfold UnpackedFloat.round decreaseExponent
  dsimp only
  rw [targetExponent_eq positive same, difference, exponent]
  exact roundWithAccuracy_exact positive finer negative (by omega)

end Rounding

/-- Normalization of an integer mantissa whose product with the exponent is a magnitude with a sign. -/
theorem normalize_exact {pattern unit k : Nat} {mantissa n : Int} (positive : 0 < unit)
    (magnitude : units pattern = n.natAbs * unit) (same : mantissa * 2 ^ k = n * unit) :
    UnpackedFloat.normalize Format.binary64 mantissa (k - 1074) .positive =
      (Kind.finite (decide (n < 0)) pattern).unpacked := by
  have signs : mantissa.sign = n.sign := by
    have parts := congrArg Int.sign same
    have power : (0 : Int) < 2 ^ k := Int.pow_pos (by decide)
    rwa [Int.sign_mul, Int.sign_mul, Int.sign_eq_one_of_pos power,
      Int.sign_eq_one_of_pos (Int.natCast_pos.2 positive), Int.mul_one, Int.mul_one] at parts
  have absolute : units pattern = mantissa.natAbs * 2 ^ k := by
    have parts := congrArg Int.natAbs same
    rw [Int.natAbs_mul, Int.natAbs_mul, Int.natAbs_pow] at parts
    exact magnitude.trans parts.symm
  have above : n ≠ 0 → 0 < pattern := by
    intro nonzero
    rw [← units_lt_units_iff, magnitude]
    exact Nat.mul_pos (Int.natAbs_pos.2 nonzero) positive
  unfold UnpackedFloat.normalize
  rcases Int.lt_trichotomy n 0 with negative | rfl | nonnegative
  · have less : mantissa < 0 := by
      rwa [← Int.sign_eq_neg_one_iff_neg, signs, Int.sign_eq_neg_one_iff_neg]
    have whole : (-mantissa).toNat = mantissa.natAbs := by omega
    rw [Int.compare_eq_lt.2 less, decide_eq_true negative]
    dsimp only
    rw [whole]
    exact round_exact (above (by omega)) absolute true
  · have zero : mantissa = 0 := by
      rw [← Int.sign_eq_zero_iff_zero, signs, Int.sign_zero]
    have nothing : pattern = 0 := by
      by_contra nonzero
      have := units_lt_units (Nat.pos_of_ne_zero nonzero)
      rw [magnitude, Int.natAbs_zero, Nat.zero_mul] at this
      omega
    rw [zero, nothing]
    rfl
  · have greater : 0 < mantissa := by
      rwa [← Int.sign_eq_one_iff_pos, signs, Int.sign_eq_one_iff_pos]
    have whole : mantissa.toNat = mantissa.natAbs := by omega
    rw [Int.compare_eq_gt.2 greater, decide_eq_false (by omega)]
    dsimp only
    rw [whole]
    exact round_exact (above (by omega)) absolute false

end Reckoner.Binary64
