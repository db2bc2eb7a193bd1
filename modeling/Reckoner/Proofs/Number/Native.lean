import Mathlib
import Reckoner.Number.Rounding

/-! Native numbers as patterns. Unpacking a number gives the significand and the shift of its pattern,
so native comparison of numbers without a sign is comparison of patterns, and magnitudes grow with
their patterns. -/

open Float.Model Float.Model.UnpackedFloat

namespace Reckoner.Binary64

theorem toNat_unpackMantissa (bits : BitVec 64) :
    (@unpackMantissa Format.binary64 bits).toNat = bits.toNat % 2 ^ 63 % 2 ^ 52 := by
  simp [unpackMantissa]

theorem toNat_unpackExponent (bits : BitVec 64) :
    (@unpackExponent Format.binary64 bits).toNat = bits.toNat % 2 ^ 63 / 2 ^ 52 := by
  simp [unpackExponent, Nat.shiftRight_eq_div_pow]
  omega

theorem toNat_unpackSign (bits : BitVec 64) :
    (@unpackSign Format.binary64 bits).toNat = bits.toNat / 2 ^ 63 := by
  have small : bits.toNat / 2 ^ 63 < 2 := by omega
  simp [unpackSign, Nat.shiftRight_eq_div_pow]
  omega

def signOf (negative : Bool) : Sign :=
  if negative then .negative else .positive

theorem ofBitVec_unpackSign (bits : BitVec 64) :
    Sign.ofBitVec (@unpackSign Format.binary64 bits) = signOf (decide (2 ^ 63 ≤ bits.toNat)) := by
  have field := toNat_unpackSign bits
  unfold Sign.ofBitVec signOf
  by_cases negative : 2 ^ 63 ≤ bits.toNat
  · have set : @unpackSign Format.binary64 bits ≠ 0#1 := by
      intro zero
      rw [zero] at field
      simp at field
      omega
    simp [set, negative]
  · have clear : @unpackSign Format.binary64 bits = 0#1 := by
      apply BitVec.eq_of_toNat_eq
      rw [field]
      simp
      omega
    simp [clear, negative]

theorem lt_infinity_iff (pattern : Nat) (bound : pattern < 2 ^ 63) :
    pattern < infinity ↔ ¬ pattern / 2 ^ 52 = 2047 := by
  unfold infinity
  omega

theorem eq_infinity_iff (pattern : Nat) :
    pattern = infinity ↔ pattern / 2 ^ 52 = 2047 ∧ pattern % 2 ^ 52 = 0 := by
  unfold infinity
  omega

theorem fields_of_subnormal (pattern : Nat) (subnormal : pattern / 2 ^ 52 = 0) :
    shift pattern = 0 ∧ significand pattern = pattern % 2 ^ 52 := by
  unfold significand shift
  omega

theorem fields_of_normal (pattern : Nat) (normal : ¬ pattern / 2 ^ 52 = 0) :
    shift pattern + 1 = pattern / 2 ^ 52 ∧ significand pattern = 2 ^ 52 + pattern % 2 ^ 52 := by
  unfold significand shift
  omega

theorem significand_pos_iff (pattern : Nat) : 0 < significand pattern ↔ 0 < pattern := by
  unfold significand shift
  omega

/-- What a number is to native arithmetic. -/
def Kind.unpacked : Kind → UnpackedFloat
  | .nan => .notANumber
  | .infinite negative => .infinity (signOf negative)
  | .finite negative pattern =>
    if positive : 0 < significand pattern then
      .finite (signOf negative) (significand pattern) (shift pattern - 1074) positive
    else .zero (signOf negative)

theorem implicit_one (mantissa : BitVec 52) : (1#1 ++ mantissa).toNat = 2 ^ 52 + mantissa.toNat := by
  rw [BitVec.toNat_append, ← Nat.shiftLeft_add_eq_or_of_lt mantissa.isLt]
  rfl

theorem unpack_eq (x : Float) : x.toModel.unpack = (kind x).unpacked := by
  change UnpackedFloat.unpack Format.binary64 x.toBits.toBitVec = _
  unfold UnpackedFloat.unpack kind
  have bound : x.toBits.toNat % 2 ^ 63 < 2 ^ 63 := Nat.mod_lt _ (by decide)
  have ones : (-1#11).toNat = 2047 := by decide
  have bias : Format.binary64.exponentBias = 1023 := by decide
  -- Both sides split on the fields of the bits, which are put as fields of the pattern first.
  simp only [← BitVec.toNat_inj, ofBitVec_unpackSign, toNat_unpackMantissa, toNat_unpackExponent,
    implicit_one, UInt64.toNat_toBitVec, lt_infinity_iff _ bound, eq_infinity_iff, ones, bias,
    BitVec.toNat_zero]
  obtain ⟨negative, sign⟩ : ∃ negative, decide (2 ^ 63 ≤ x.toBits.toNat) = negative := ⟨_, rfl⟩
  obtain ⟨pattern, bits⟩ : ∃ pattern, x.toBits.toNat % 2 ^ 63 = pattern := ⟨_, rfl⟩
  simp only [sign, bits]
  by_cases special : pattern / 2 ^ 52 = 2047
  · by_cases zero : pattern % 2 ^ 52 = 0
    · simp [special, zero, Kind.unpacked]
    · simp [special, zero, Kind.unpacked]
  · by_cases subnormal : pattern / 2 ^ 52 = 0
    · obtain ⟨unshifted, whole⟩ := fields_of_subnormal pattern subnormal
      by_cases zero : pattern % 2 ^ 52 = 0
      · simp [Kind.unpacked, subnormal, whole, zero]
      · have positive : 0 < pattern % 2 ^ 52 := Nat.pos_of_ne_zero zero
        simp [Kind.unpacked, subnormal, whole, zero, unshifted, positive]
    · obtain ⟨shifted, leading⟩ := fields_of_normal pattern subnormal
      have positive : 0 < 2 ^ 52 + pattern % 2 ^ 52 := by omega
      rw [if_neg special, if_neg subnormal, if_pos special]
      simp [Kind.unpacked, leading, ← shifted, positive]
      omega

/-- Patterns are in the order of their magnitudes, first by shift and then by significand. -/
theorem compare_fields (p q : Nat) :
    ((compare ((shift p : Int) - 1074) (shift q - 1074)).then
      (compare (significand p) (significand q))) = compare p q := by
  have left := shift_add_significand p
  have right := shift_add_significand q
  have leftBound := significand_lt p
  have rightBound := significand_lt q
  rcases Nat.lt_trichotomy (shift p) (shift q) with lower | same | higher
  · have high := le_significand (Nat.zero_lt_of_lt lower)
    have below : p < q := by omega
    rw [Int.compare_eq_lt.2 (by omega), Nat.compare_eq_lt.2 below]
    rfl
  · have order : significand p < significand q ↔ p < q := by omega
    have reverse : significand q < significand p ↔ q < p := by omega
    rw [same, Int.compare_eq_eq.2 rfl, Nat.compare_eq_ite_lt, Nat.compare_eq_ite_lt]
    simp only [order, reverse, Ordering.eq_then]
  · have high := le_significand (Nat.zero_lt_of_lt higher)
    have above : q < p := by omega
    rw [Int.compare_eq_gt.2 (by omega), Nat.compare_eq_gt.2 above]
    rfl

theorem unpacked_zero (negative : Bool) : (Kind.finite negative 0).unpacked = .zero (signOf negative) :=
  rfl

theorem unpacked_pos (negative : Bool) (pattern : Nat) (positive : 0 < pattern) :
    ∃ leading, (Kind.finite negative pattern).unpacked =
      .finite (signOf negative) (significand pattern) (shift pattern - 1074) leading := by
  have leading : 0 < significand pattern := (significand_pos_iff pattern).2 positive
  exact ⟨leading, dif_pos leading⟩

theorem compare_unpacked (p q : Nat) :
    (Kind.finite false p).unpacked.compare (Kind.finite false q).unpacked = some (compare p q) := by
  rcases Nat.eq_zero_or_pos p with rfl | leftPositive
  · rw [unpacked_zero]
    rcases Nat.eq_zero_or_pos q with rfl | rightPositive
    · rfl
    · obtain ⟨_, right⟩ := unpacked_pos false q rightPositive
      rw [right, Nat.compare_eq_lt.2 rightPositive]
      rfl
  · obtain ⟨_, left⟩ := unpacked_pos false p leftPositive
    rw [left]
    rcases Nat.eq_zero_or_pos q with rfl | rightPositive
    · rw [unpacked_zero, Nat.compare_eq_gt.2 leftPositive]
      rfl
    · obtain ⟨_, right⟩ := unpacked_pos false q rightPositive
      rw [right, ← compare_fields p q]
      rfl

theorem le_iff_compare (x y : Float) :
    x ≤ y ↔ ((kind x).unpacked.compare (kind y).unpacked).any Ordering.isLE = true := by
  rw [← unpack_eq, ← unpack_eq]
  change decide (x.toModel ≤ y.toModel) = true ↔ _
  rw [decide_eq_true_iff]
  rfl

theorem lt_iff_compare (x y : Float) :
    x < y ↔ (kind x).unpacked.compare (kind y).unpacked = some .lt := by
  rw [← unpack_eq, ← unpack_eq]
  change decide (x.toModel < y.toModel) = true ↔ _
  rw [decide_eq_true_iff]
  exact beq_iff_eq

theorem le_iff_pattern (x y : Float) (p q : Nat) (left : kind x = .finite false p)
    (right : kind y = .finite false q) : x ≤ y ↔ p ≤ q := by
  rw [le_iff_compare, left, right, compare_unpacked]
  exact Nat.isLE_compare

theorem lt_iff_pattern (x y : Float) (p q : Nat) (left : kind x = .finite false p)
    (right : kind y = .finite false q) : x < y ↔ p < q := by
  rw [lt_iff_compare, left, right, compare_unpacked, Option.some_inj]
  exact Nat.compare_eq_lt

theorem kind_of_pos_le (low x : Float) (first : Nat) (lowest : kind low = .finite false first)
    (positive : 0 < first) (le : low ≤ x) :
    kind x = .infinite false ∨ ∃ pattern, kind x = .finite false pattern := by
  obtain ⟨_, below⟩ := unpacked_pos false first positive
  rw [le_iff_compare, lowest, below] at le
  cases sort : kind x with
  | nan =>
    rw [sort] at le
    cases le
  | infinite negative =>
    rw [sort] at le
    cases negative with
    | true => cases le
    | false => exact Or.inl rfl
  | finite negative pattern =>
    rw [sort] at le
    cases negative with
    | true =>
      rcases Nat.eq_zero_or_pos pattern with rfl | other
      · cases le
      · obtain ⟨_, signed⟩ := unpacked_pos true pattern other
        rw [signed] at le
        cases le
    | false => exact Or.inr ⟨pattern, rfl⟩

theorem not_infinity_lt (x high : Float) (last : Nat) (infinite : kind x = .infinite false)
    (highest : kind high = .finite false last) : ¬ x < high := by
  rw [lt_iff_compare, infinite, highest]
  intro less
  rcases Nat.eq_zero_or_pos last with rfl | positive
  · cases less
  · obtain ⟨_, above⟩ := unpacked_pos false last positive
    rw [above] at less
    cases less

/-- The numbers from a positive one up to but not including another are those with the patterns
between. -/
theorem between_iff (low high x : Float) (first last : Nat) (lowest : kind low = .finite false first)
    (highest : kind high = .finite false last) (positive : 0 < first) :
    (low ≤ x ∧ x < high) ↔
      ∃ pattern, kind x = .finite false pattern ∧ first ≤ pattern ∧ pattern < last := by
  constructor
  · intro range
    obtain ⟨le, lt⟩ := range
    rcases kind_of_pos_le low x first lowest positive le with infinite | ⟨pattern, finite⟩
    · exact absurd lt (not_infinity_lt x high last infinite highest)
    · exact ⟨pattern, finite, (le_iff_pattern low x first pattern lowest finite).1 le,
        (lt_iff_pattern x high pattern last finite highest).1 lt⟩
  · intro found
    obtain ⟨pattern, finite, le, lt⟩ := found
    exact ⟨(le_iff_pattern low x first pattern lowest finite).2 le,
      (lt_iff_pattern x high pattern last finite highest).2 lt⟩

theorem units_lt_units {p q : Nat} (lt : p < q) : units p < units q := by
  have left := shift_add_significand p
  have right := shift_add_significand q
  have leftBound := significand_lt p
  have rightBound := significand_lt q
  rcases Nat.lt_trichotomy (shift p) (shift q) with lower | same | higher
  · have high := le_significand (Nat.zero_lt_of_lt lower)
    calc units p < 2 ^ 53 * 2 ^ shift p := Nat.mul_lt_mul_of_pos_right leftBound (Nat.two_pow_pos _)
      _ = 2 ^ 52 * 2 ^ (shift p + 1) := by rw [Nat.pow_succ 2 (shift p), Nat.pow_succ 2 52]; ac_rfl
      _ ≤ 2 ^ 52 * 2 ^ shift q := Nat.mul_le_mul_left _ (Nat.pow_le_pow_right (by decide) lower)
      _ ≤ units q := Nat.mul_le_mul_right _ high
  · have below : significand p < significand q := by omega
    rw [units, units, same]
    exact Nat.mul_lt_mul_of_pos_right below (Nat.two_pow_pos _)
  · have high := le_significand (Nat.zero_lt_of_lt higher)
    omega

theorem units_lt_units_iff (p q : Nat) : units p < units q ↔ p < q := by
  constructor
  · intro lt
    rcases Nat.lt_trichotomy p q with below | rfl | above
    · exact below
    · exact absurd lt (Nat.lt_irrefl _)
    · exact absurd lt (Nat.lt_asymm (units_lt_units above))
  · exact units_lt_units

theorem toNat_toBits (x : Float) :
    x.toBits.toNat = if decide (2 ^ 63 ≤ x.toBits.toNat) = true then 2 ^ 63 + x.toBits.toNat % 2 ^ 63
      else x.toBits.toNat % 2 ^ 63 := by
  have bound : x.toBits.toNat < 2 ^ 64 := x.toBits.toNat_lt
  simp only [decide_eq_true_eq]
  split
  · omega
  · omega

theorem ofPattern_of_toNat_toBits (x : Float) (negative : Bool) (pattern : Nat)
    (bits : x.toBits.toNat = if negative then 2 ^ 63 + pattern else pattern) :
    ofPattern negative pattern = x := by
  rw [ofPattern, ← bits, UInt64.ofNat_toNat, Float.ofBits_toBits]

theorem kind_eq_finite_iff (x : Float) (negative : Bool) (pattern : Nat) :
    kind x = .finite negative pattern ↔
      pattern < infinity ∧ x.toBits.toNat = if negative then 2 ^ 63 + pattern else pattern := by
  unfold kind
  dsimp only
  constructor
  · intro finite
    split at finite
    next inside =>
      obtain ⟨rfl, rfl⟩ := Kind.finite.inj finite
      exact ⟨inside, toNat_toBits x⟩
    next =>
      split at finite
      · cases finite
      · cases finite
  · intro parts
    obtain ⟨inside, bits⟩ := parts
    have small : pattern < 2 ^ 63 := Nat.lt_trans inside (by unfold infinity; omega)
    have rest : x.toBits.toNat % 2 ^ 63 = pattern := by
      cases negative with
      | false => rw [bits, if_neg Bool.false_ne_true, Nat.mod_eq_of_lt small]
      | true => rw [bits, if_pos rfl, Nat.add_mod_left, Nat.mod_eq_of_lt small]
    have sign : decide (2 ^ 63 ≤ x.toBits.toNat) = negative := by
      cases negative with
      | false =>
        rw [if_neg Bool.false_ne_true] at bits
        exact decide_eq_false (by omega)
      | true =>
        rw [if_pos rfl] at bits
        exact decide_eq_true (by omega)
    rw [rest, sign, if_pos inside]

theorem ofPattern_of_kind (x : Float) (negative : Bool) (pattern : Nat)
    (finite : kind x = .finite negative pattern) : ofPattern negative pattern = x :=
  ofPattern_of_toNat_toBits x negative pattern ((kind_eq_finite_iff x negative pattern).1 finite).2

theorem ofPattern_of_infinite (x : Float) (negative : Bool) (infinite : kind x = .infinite negative) :
    ofPattern negative infinity = x := by
  unfold kind at infinite
  dsimp only at infinite
  split at infinite
  next => cases infinite
  next =>
    split at infinite
    next pattern =>
      cases infinite
      exact ofPattern_of_toNat_toBits x _ _ (pattern ▸ toNat_toBits x)
    next => cases infinite

theorem kind_eq_nan_iff (x : Float) : kind x = .nan ↔ x.isNaN = true := by
  have native : x.isNaN = (kind x).unpacked.isNaN := by
    rw [← unpack_eq]
    rfl
  rw [native]
  cases kind x with
  | nan => simp [Kind.unpacked, UnpackedFloat.isNaN]
  | infinite negative => simp [Kind.unpacked, UnpackedFloat.isNaN]
  | finite negative pattern =>
    rw [Kind.unpacked]
    split
    · simp [UnpackedFloat.isNaN]
    · simp [UnpackedFloat.isNaN]

theorem toNat_toBits_ofPattern (negative : Bool) (pattern : Nat) (number : pattern ≤ infinity) :
    (ofPattern negative pattern).toBits.toNat = if negative then 2 ^ 63 + pattern else pattern := by
  have bound : infinity < 2 ^ 63 := by decide
  obtain ⟨bits, same⟩ : ∃ bits,
      UInt64.ofNat (if negative then 2 ^ 63 + pattern else pattern) = UInt64.ofBitVec bits := ⟨_, rfl⟩
  have whole : bits.toNat = if negative then 2 ^ 63 + pattern else pattern := by
    rw [← UInt64.toNat_ofBitVec, ← same, UInt64.toNat_ofNat', Nat.mod_eq_of_lt]
    split
    · omega
    · omega
  have rest : bits.toNat % 2 ^ 63 = pattern := by
    rw [whole]
    split
    · omega
    · omega
  have native : @isNaNBits Format.binary64 bits = false := by
    rw [isNaNBits, decide_eq_false_iff_not]
    rintro ⟨special, nonzero⟩
    have exponent : 2047 = pattern / 2 ^ 52 := by
      rw [← rest, ← toNat_unpackExponent, special]
      decide
    apply nonzero
    apply BitVec.eq_of_toNat_eq
    rw [toNat_unpackMantissa, rest, BitVec.toNat_zero]
    unfold infinity at number
    omega
  have kept : UnpackedFloat.pack Format.binary64 (UnpackedFloat.unpack Format.binary64 bits) = bits := by
    rw [pack_unpack, native, if_neg Bool.false_ne_true]
  rw [ofPattern, same]
  change (UnpackedFloat.pack Format.binary64 (UnpackedFloat.unpack Format.binary64 bits)).toNat = _
  rw [kept, whole]

theorem kind_ofPattern (negative : Bool) (pattern : Nat) (finite : pattern < infinity) :
    kind (ofPattern negative pattern) = .finite negative pattern :=
  (kind_eq_finite_iff _ _ _).2 ⟨finite, toNat_toBits_ofPattern _ _ (Nat.le_of_lt finite)⟩

theorem kind_ofPattern_infinity (negative : Bool) :
    kind (ofPattern negative infinity) = .infinite negative := by
  cases negative with
  | false => decide +kernel
  | true => decide +kernel

theorem ofModel_pack (x : Float) (unpacked : UnpackedFloat) (same : unpacked = (kind x).unpacked) :
    Float.ofModel (.pack unpacked) = x := by
  have bits : UnpackedFloat.pack Format.binary64 x.toModel.unpack = x.toModel.toBits.toBitVec :=
    pack_unpack_of_valid x.toModel.valid
  rw [same, ← unpack_eq]
  cases x with
  | ofModel model =>
    cases model
    simp only [Float.Model.pack, bits]

theorem abs_of_finite (x : Float) (negative : Bool) (pattern : Nat)
    (finite : kind x = .finite negative pattern) : x.abs = ofPattern false pattern := by
  have inside := ((kind_eq_finite_iff x negative pattern).1 finite).1
  refine ofModel_pack _ _ ?_
  rw [unpack_eq, finite, kind_ofPattern false pattern inside]
  rcases Nat.eq_zero_or_pos pattern with rfl | positive
  · rfl
  · obtain ⟨_, left⟩ := unpacked_pos negative pattern positive
    obtain ⟨_, right⟩ := unpacked_pos false pattern positive
    rw [left, right]
    rfl

theorem unpacked_neg (negative : Bool) (pattern : Nat) :
    (Kind.finite negative pattern).unpacked.neg = (Kind.finite (!negative) pattern).unpacked := by
  have opposite : -signOf negative = signOf (!negative) := by
    cases negative with
    | false => rfl
    | true => rfl
  rcases Nat.eq_zero_or_pos pattern with rfl | positive
  · rw [unpacked_zero, unpacked_zero, ← opposite]
    rfl
  · obtain ⟨_, left⟩ := unpacked_pos negative pattern positive
    obtain ⟨_, right⟩ := unpacked_pos (!negative) pattern positive
    rw [left, right]
    simp only [UnpackedFloat.neg, opposite]

theorem neg_of_finite (x : Float) (negative : Bool) (pattern : Nat)
    (finite : kind x = .finite negative pattern) : -x = ofPattern (!negative) pattern := by
  have inside := ((kind_eq_finite_iff x negative pattern).1 finite).1
  refine ofModel_pack _ _ ?_
  rw [unpack_eq, finite, kind_ofPattern (!negative) pattern inside, unpacked_neg]

theorem unpacked_sub (format : Format) (u v : UnpackedFloat) :
    UnpackedFloat.sub format u v = UnpackedFloat.add format u v.neg := by
  cases u with
  | finite s m e hm =>
    cases v with
    | finite s' m' e' hm' =>
      have opposite : ∀ n : Int, (-s').apply n = -s'.apply n := by
        intro n
        cases s' with
        | negative => exact (Int.neg_neg n).symm
        | positive => rfl
      simp only [UnpackedFloat.sub, UnpackedFloat.add, UnpackedFloat.neg, opposite, Int.sub_eq_add_neg]
    | _ => rfl
  | notANumber => cases v <;> rfl
  | infinity s => cases v <;> rfl
  | zero s => cases v <;> rfl

theorem sub_of_finite (x y : Float) (negative : Bool) (pattern : Nat)
    (finite : kind y = .finite negative pattern) : x - y = x + -y := by
  have inside := ((kind_eq_finite_iff y negative pattern).1 finite).1
  have opposite : (-y).toModel.unpack = y.toModel.unpack.neg := by
    rw [neg_of_finite y negative pattern finite, unpack_eq, unpack_eq, finite,
      kind_ofPattern (!negative) pattern inside, unpacked_neg]
  have difference : x - y = .ofModel (.pack (UnpackedFloat.sub Format.binary64
      x.toModel.unpack y.toModel.unpack)) := rfl
  rw [difference, unpacked_sub, ← opposite]
  rfl

theorem neg_of_infinite (x : Float) (negative : Bool) (infinite : kind x = .infinite negative) :
    -x = ofPattern (!negative) infinity := by
  refine ofModel_pack _ _ ?_
  rw [unpack_eq, infinite, kind_ofPattern_infinity]
  cases negative with
  | false => rfl
  | true => rfl

theorem kind_of_pos (x : Float) (positive : 0 < x) :
    kind x = .infinite false ∨ ∃ pattern, 0 < pattern ∧ kind x = .finite false pattern := by
  have zero : kind 0 = .finite false 0 := by decide +kernel
  rw [lt_iff_compare, zero, unpacked_zero] at positive
  cases sort : kind x with
  | nan =>
    rw [sort] at positive
    cases positive
  | infinite negative =>
    rw [sort] at positive
    cases negative with
    | true => cases positive
    | false => exact Or.inl rfl
  | finite negative pattern =>
    rw [sort] at positive
    rcases Nat.eq_zero_or_pos pattern with rfl | above
    · cases positive
    · obtain ⟨_, unpacked⟩ := unpacked_pos negative pattern above
      rw [unpacked] at positive
      cases negative with
      | true => cases positive
      | false => exact Or.inr ⟨pattern, above, rfl⟩

theorem isFinite_iff (x : Float) :
    x.isFinite = true ↔ ∃ negative pattern, kind x = .finite negative pattern := by
  have native : x.isFinite = (kind x).unpacked.isFinite := by
    rw [← unpack_eq]
    rfl
  rw [native]
  cases kind x with
  | nan => simp [Kind.unpacked, UnpackedFloat.isFinite]
  | infinite negative => simp [Kind.unpacked, UnpackedFloat.isFinite]
  | finite negative pattern =>
    rw [Kind.unpacked]
    split
    · simp [UnpackedFloat.isFinite]
    · simp [UnpackedFloat.isFinite]

end Reckoner.Binary64
