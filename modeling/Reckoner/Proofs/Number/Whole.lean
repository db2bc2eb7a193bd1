import Reckoner.Number.Decimal
import Reckoner.Number.Remainder
import Reckoner.Proofs.Number.Exact
import Reckoner.Proofs.Number.Nearest
import Reckoner.Proofs.Number.Plain

/-! Whole numbers among the binary64 numbers. Up to `2 ^ 53` each of them has a pattern, and as long as
results stay within that bound, addition, subtraction, multiplication and remainders are exact. -/

open Float.Model Float.Model.UnpackedFloat

namespace Reckoner
namespace Binary64

theorem units_of_normal (places significant : Nat) (leading : 2 ^ 52 ≤ significant)
    (fits : significant < 2 ^ 53) :
    units (places * 2 ^ 52 + significant) = significant * 2 ^ places := by
  have shifted : shift (places * 2 ^ 52 + significant) = places := by
    unfold shift
    omega
  have kept : significand (places * 2 ^ 52 + significant) = significant := by
    rw [significand, shifted]
    omega
  rw [units, shifted, kept]

theorem depth_eq : depth = 1074 := by
  unfold depth
  rfl

theorem exists_units_eq (n : Nat) (le : n ≤ 2 ^ 53) :
    ∃ pattern, pattern < infinity ∧ units pattern = n * one := by
  have unit := depth_eq
  rcases Nat.eq_zero_or_pos n with rfl | positive
  · exact ⟨0, by unfold infinity; omega, by rw [Nat.zero_mul]; rfl⟩
  · rcases Nat.lt_or_eq_of_le le with below | rfl
    · have bits : n.log2 < 53 := (Nat.log2_lt (Nat.ne_of_gt positive)).2 below
      obtain ⟨places, total⟩ : ∃ places, n.log2 + places = 52 := ⟨52 - n.log2, by omega⟩
      have leading : 2 ^ 52 ≤ n * 2 ^ places := by
        rw [← total, Nat.pow_add]
        exact Nat.mul_le_mul_right _ (Nat.log2_self_le (Nat.ne_of_gt positive))
      have fits : n * 2 ^ places < 2 ^ 53 := by
        rw [show 53 = n.log2 + 1 + places by omega, Nat.pow_add]
        exact Nat.mul_lt_mul_of_pos_right Nat.lt_log2_self (Nat.two_pow_pos _)
      refine ⟨(depth - places) * 2 ^ 52 + n * 2 ^ places, by unfold infinity; omega, ?_⟩
      rw [units_of_normal _ _ leading fits, one, Nat.mul_assoc, ← Nat.pow_add,
        Nat.add_sub_cancel' (by omega)]
    · refine ⟨(depth + 1) * 2 ^ 52 + 2 ^ 52, by unfold infinity; omega, ?_⟩
      rw [units_of_normal _ (2 ^ 52) (Nat.le_refl _) (by decide), one, ← Nat.pow_add, ← Nat.pow_add]
      congr 1
      omega

theorem units_injective {p q : Nat} (same : units p = units q) : p = q := by
  rcases Nat.lt_trichotomy p q with below | equal | above
  · exact absurd same (Nat.ne_of_lt (units_lt_units below))
  · exact equal
  · exact absurd same (Nat.ne_of_gt (units_lt_units above))

theorem units_nearest_whole (n : Nat) (le : n ≤ 2 ^ 53) :
    nearest (n * one) 1 < infinity ∧ units (nearest (n * one) 1) = n * one := by
  obtain ⟨pattern, finite, magnitude⟩ := exists_units_eq n le
  have exact : nearest (n * one) 1 = pattern := by
    rw [← magnitude, ← Nat.mul_one (units pattern)]
    exact nearest_units finite Nat.one_pos
  rw [exact]
  exact ⟨finite, magnitude⟩

/-- Below the bound no other whole number, however large, is read as the same number. -/
theorem eq_of_nearest_whole_eq {m n : Nat} (small : n < 2 ^ 53)
    (same : nearest (m * one) 1 = nearest (n * one) 1) : m = n := by
  have magnitude := (units_nearest_whole n (Nat.le_of_lt small)).2
  rcases Nat.lt_trichotomy m n with below | equal | beyond
  · rw [← same, (units_nearest_whole m (by omega)).2] at magnitude
    exact Nat.mul_right_cancel one_pos magnitude
  · exact equal
  · -- The next whole number has a pattern of its own, and larger ones are not read below it.
    have next := (units_nearest_whole (n + 1) small).2
    have apart : nearest (n * one) 1 < nearest ((n + 1) * one) 1 := by
      rw [← units_lt_units_iff, magnitude, next]
      exact Nat.mul_lt_mul_of_pos_right (Nat.lt_succ_self n) one_pos
    have order : nearest ((n + 1) * one) 1 ≤ nearest (m * one) 1 :=
      nearest_mono 1 (Nat.mul_le_mul_right one beyond)
    omega

/-- The number is exactly a whole one, and has no sign if it is zero. -/
def Represents (x : Float) (n : Int) : Prop :=
  ∃ pattern, kind x = .finite (decide (n < 0)) pattern ∧ units pattern = n.natAbs * one

theorem exists_represents (n : Int) (le : n.natAbs ≤ 2 ^ 53) : ∃ x, Represents x n := by
  obtain ⟨pattern, finite, magnitude⟩ := exists_units_eq n.natAbs le
  exact ⟨ofPattern (decide (n < 0)) pattern, pattern, kind_ofPattern _ pattern finite, magnitude⟩

theorem represents_nearest (n : Nat) (le : n ≤ 2 ^ 53) :
    Represents (ofPattern false (nearest (n * one) 1)) n := by
  obtain ⟨finite, magnitude⟩ := units_nearest_whole n le
  have sign : decide ((n : Int) < 0) = false := decide_eq_false (by omega)
  exact ⟨nearest (n * one) 1, sign ▸ kind_ofPattern false _ finite, magnitude⟩

namespace Represents

variable {x y : Float} {a b : Int}

theorem unpacked_of_zero (zero : Represents x 0) : (kind x).unpacked = .zero .positive := by
  obtain ⟨pattern, finite, magnitude⟩ := zero
  have nothing : pattern = 0 := units_injective (magnitude.trans (Nat.zero_mul one))
  rw [finite, nothing]
  rfl

theorem unpacked_of_ne_zero (whole : Represents x a) (nonzero : a ≠ 0) :
    ∃ (mantissa k : Nat) (positive : 0 < mantissa),
      (kind x).unpacked = .finite (signOf (decide (a < 0))) mantissa (k - 1074) positive ∧
        mantissa * 2 ^ k = a.natAbs * one ∧ 2 ^ 52 ≤ mantissa ∧ 1022 ≤ k := by
  obtain ⟨pattern, finite, magnitude⟩ := whole
  have least : 1 ≤ a.natAbs := Int.natAbs_pos.2 nonzero
  have reaches : 2 ^ depth ≤ units pattern := by
    rw [magnitude]
    exact Nat.le_mul_of_pos_left one least
  have above : units pattern ≠ 0 := Nat.ne_of_gt (Nat.lt_of_lt_of_le (Nat.two_pow_pos _) reaches)
  have length := (Nat.le_log2 above).2 reaches
  have shifted := log2_units pattern
  have unit := depth_eq
  have positive : 0 < pattern := by
    rw [← units_lt_units_iff]
    exact Nat.pos_of_ne_zero above
  obtain ⟨leading, unpacked⟩ := unpacked_pos (decide (a < 0)) pattern positive
  exact ⟨significand pattern, shift pattern, leading, finite ▸ unpacked, magnitude,
    le_significand (by omega), by omega⟩

theorem apply_shiftLeft {mantissa k least : Nat} (magnitude : mantissa * 2 ^ k = a.natAbs * one)
    (le : least ≤ k) :
    (signOf (decide (a < 0))).apply
        (mantissa <<< ((k : Int) - 1074 - (least - 1074)).toNat : Nat) * 2 ^ least = a * one := by
  have amount : ((k : Int) - 1074 - (least - 1074)).toNat = k - least := by omega
  have brought : ((mantissa <<< (k - least) : Nat) : Int) * 2 ^ least = a.natAbs * one := by
    have whole : mantissa <<< (k - least) * 2 ^ least = a.natAbs * one := by
      rw [Nat.shiftLeft_eq, Nat.mul_assoc, ← Nat.pow_add, Nat.sub_add_cancel le, magnitude]
    exact_mod_cast whole
  rw [amount]
  by_cases negative : a < 0
  · have absolute : (a.natAbs : Int) = -a := by omega
    rw [absolute] at brought
    rw [decide_eq_true negative]
    change -((mantissa <<< (k - least) : Nat) : Int) * 2 ^ least = _
    rw [Int.neg_mul, brought, Int.neg_mul, Int.neg_neg]
  · have absolute : (a.natAbs : Int) = a := by omega
    rw [absolute] at brought
    rw [decide_eq_false negative]
    exact brought

theorem kind_eq (left : Represents x a) (right : Represents y a) : kind x = kind y := by
  obtain ⟨p, leftFinite, leftMagnitude⟩ := left
  obtain ⟨q, rightFinite, rightMagnitude⟩ := right
  rw [leftFinite, rightFinite, units_injective (leftMagnitude.trans rightMagnitude.symm)]

theorem normalize_of_aligned {z : Float} {n : Int} (result : Represents z n) {j k : Nat}
    {mantissa : Int} (same : mantissa * 2 ^ min j k = n * one) :
    UnpackedFloat.normalize Format.binary64 mantissa (min (j - 1074) (k - 1074)) .positive =
      (kind z).unpacked := by
  obtain ⟨pattern, finite, magnitude⟩ := result
  have least : min ((j : Int) - 1074) (k - 1074) = (min j k : Nat) - 1074 := by omega
  rw [least, finite]
  exact normalize_exact one_pos magnitude same

theorem add (left : Represents x a) (right : Represents y b) (le : (a + b).natAbs ≤ 2 ^ 53) :
    Represents (x + y) (a + b) := by
  obtain ⟨z, sum⟩ := exists_represents (a + b) le
  have native : UnpackedFloat.add Format.binary64 (kind x).unpacked (kind y).unpacked =
      (kind z).unpacked := by
    rcases eq_or_ne a 0 with rfl | leftNonzero
    · rw [Int.zero_add] at sum
      rw [left.unpacked_of_zero, sum.kind_eq right]
      rcases eq_or_ne b 0 with rfl | rightNonzero
      · rw [right.unpacked_of_zero]
        rfl
      · obtain ⟨_, _, _, unpacked, _⟩ := right.unpacked_of_ne_zero rightNonzero
        rw [unpacked]
        rfl
    · obtain ⟨m, j, _, leftUnpacked, leftMagnitude, _⟩ := left.unpacked_of_ne_zero leftNonzero
      rcases eq_or_ne b 0 with rfl | rightNonzero
      · rw [Int.add_zero] at sum
        rw [right.unpacked_of_zero, sum.kind_eq left, leftUnpacked]
        rfl
      · obtain ⟨n, k, _, rightUnpacked, rightMagnitude, _⟩ :=
          right.unpacked_of_ne_zero rightNonzero
        rw [leftUnpacked, rightUnpacked]
        apply normalize_of_aligned sum
        have least : min ((j : Int) - 1074) (k - 1074) = (min j k : Nat) - 1074 := by omega
        rw [least, Int.add_mul, apply_shiftLeft leftMagnitude (Nat.min_le_left j k),
          apply_shiftLeft rightMagnitude (Nat.min_le_right j k), Int.add_mul]
  have same : x + y = z := ofModel_pack z _ (by rw [unpack_eq, unpack_eq, native])
  rw [same]
  exact sum

theorem neg (whole : Represents x a) (nonzero : a ≠ 0) : Represents (-x) (-a) := by
  obtain ⟨pattern, finite, magnitude⟩ := whole
  have inside := ((kind_eq_finite_iff x _ pattern).1 finite).1
  have sign : (!decide (a < 0)) = decide (-a < 0) := by
    rw [← decide_not]
    exact decide_eq_decide.2 (by omega)
  refine ⟨pattern, ?_, by rw [Int.natAbs_neg, magnitude]⟩
  rw [neg_of_finite x _ pattern finite, kind_ofPattern _ pattern inside, sign]

theorem sub (left : Represents x a) (right : Represents y b) (le : (a - b).natAbs ≤ 2 ^ 53) :
    Represents (x - y) (a - b) := by
  rcases eq_or_ne b 0 with rfl | nonzero
  · have native : UnpackedFloat.sub Format.binary64 (kind x).unpacked (kind y).unpacked =
        (kind x).unpacked := by
      rw [right.unpacked_of_zero]
      rcases eq_or_ne a 0 with rfl | leftNonzero
      · rw [left.unpacked_of_zero]
        rfl
      · obtain ⟨_, _, _, unpacked, _⟩ := left.unpacked_of_ne_zero leftNonzero
        rw [unpacked]
        rfl
    have same : x - y = x := ofModel_pack x _ (by rw [unpack_eq, unpack_eq, native])
    rw [same, Int.sub_zero]
    exact left
  · have opposite := right.neg nonzero
    obtain ⟨pattern, finite, _⟩ := right
    rw [Int.sub_eq_add_neg] at le
    rw [sub_of_finite x y _ pattern finite, Int.sub_eq_add_neg]
    exact left.add opposite le

theorem roundWithAccuracy_of_product {z : Float} {m n j k : Nat} (product : Represents z (a * b))
    (nonneg : 0 ≤ a * b) (leftMagnitude : m * 2 ^ j = a.natAbs * one)
    (rightMagnitude : n * 2 ^ k = b.natAbs * one) (left : 2 ^ 52 ≤ m) (right : 2 ^ 52 ≤ n)
    (exponents : 1074 ≤ j + k) :
    roundWithAccuracy Format.binary64 (signOf false) (m * n) ((j : Int) - 1074 + (k - 1074)) .exact =
      (kind z).unpacked := by
  obtain ⟨pattern, finite, magnitude⟩ := product
  have unit := depth_eq
  obtain ⟨places, total⟩ : ∃ places, places + depth = j + k := ⟨j + k - depth, by omega⟩
  have same : units pattern = m * n * 2 ^ places := by
    apply Nat.mul_right_cancel one_pos
    calc units pattern * one = a.natAbs * one * (b.natAbs * one) := by
          rw [magnitude, Int.natAbs_mul]
          ac_rfl
      _ = m * n * 2 ^ (j + k) := by
          rw [← leftMagnitude, ← rightMagnitude, Nat.pow_add]
          ac_rfl
      _ = m * n * 2 ^ places * one := by rw [← total, Nat.pow_add, one, ← Nat.mul_assoc]
  have wide : 2 ^ 52 * 2 ^ 52 ≤ m * n := Nat.mul_le_mul left right
  have above : 0 < m * n := Nat.lt_of_lt_of_le (by decide) wide
  have positive : 0 < pattern := by
    rw [← units_lt_units_iff, same]
    exact Nat.mul_pos above (Nat.two_pow_pos places)
  have length : 104 ≤ (m * n).log2 := (Nat.le_log2 (Nat.ne_of_gt above)).2 wide
  have shifted := log2_units pattern
  rw [same, log2_mul_two_pow _ places above] at shifted
  have exponent : (j : Int) - 1074 + (k - 1074) = places - 1074 := by omega
  rw [exponent, finite, decide_eq_false (Int.not_lt.2 nonneg)]
  exact roundWithAccuracy_exact positive same false (by omega)

/-- The product of whole numbers without a sign; a negative one and zero have a product with a sign. -/
theorem mul (left : Represents x a) (right : Represents y b) (leftSign : 0 ≤ a) (rightSign : 0 ≤ b)
    (le : (a * b).natAbs ≤ 2 ^ 53) : Represents (x * y) (a * b) := by
  obtain ⟨z, product⟩ := exists_represents (a * b) le
  have native : UnpackedFloat.mul Format.binary64 (kind x).unpacked (kind y).unpacked =
      (kind z).unpacked := by
    rcases eq_or_ne a 0 with rfl | leftNonzero
    · rw [Int.zero_mul] at product
      rw [left.unpacked_of_zero, product.unpacked_of_zero]
      rcases eq_or_ne b 0 with rfl | rightNonzero
      · rw [right.unpacked_of_zero]
        rfl
      · obtain ⟨_, _, _, unpacked, _⟩ := right.unpacked_of_ne_zero rightNonzero
        rw [unpacked, decide_eq_false (Int.not_lt.2 rightSign)]
        rfl
    · obtain ⟨m, j, _, leftUnpacked, leftMagnitude, leftFull, leftExponent⟩ :=
        left.unpacked_of_ne_zero leftNonzero
      rw [leftUnpacked, decide_eq_false (Int.not_lt.2 leftSign)]
      rcases eq_or_ne b 0 with rfl | rightNonzero
      · rw [Int.mul_zero] at product
        rw [right.unpacked_of_zero, product.unpacked_of_zero]
        rfl
      · obtain ⟨n, k, _, rightUnpacked, rightMagnitude, rightFull, rightExponent⟩ :=
          right.unpacked_of_ne_zero rightNonzero
        rw [rightUnpacked, decide_eq_false (Int.not_lt.2 rightSign)]
        exact roundWithAccuracy_of_product product (Int.mul_nonneg leftSign rightSign) leftMagnitude
          rightMagnitude leftFull rightFull (by omega)
  have same : x * y = z := ofModel_pack z _ (by rw [unpack_eq, unpack_eq, native])
  rw [same]
  exact product

theorem remainder (left : Represents x a) (right : Represents y b) (leftSign : 0 ≤ a)
    (rightSign : 0 < b) (le : (a.tmod b).natAbs ≤ 2 ^ 53) :
    Represents (Binary64.remainder x y) (a.tmod b) := by
  obtain ⟨p, finite, magnitude⟩ := left
  obtain ⟨q, divisor, divisorMagnitude⟩ := right
  obtain ⟨m, rfl⟩ := Int.eq_ofNat_of_zero_le leftSign
  obtain ⟨n, rfl⟩ := Int.eq_ofNat_of_zero_le (Int.le_of_lt rightSign)
  rw [Int.natAbs_natCast] at magnitude divisorMagnitude
  rw [← Int.ofNat_tmod, Int.natAbs_natCast] at le
  have divides : units q ≠ 0 := by
    rw [divisorMagnitude]
    exact Nat.ne_of_gt (Nat.mul_pos (by omega) one_pos)
  have rest : units p % units q = m % n * one := by
    rw [magnitude, divisorMagnitude, Nat.mul_mod_mul_right]
  rw [Binary64.remainder, finite, divisor, ← Int.ofNat_tmod]
  dsimp only
  rw [if_neg divides, rest, decide_eq_false (Int.not_lt.2 leftSign)]
  exact represents_nearest (m % n) le

end Represents
end Binary64

theorem Numeral.read?_digits (digits : List Char) (nonempty : digits ≠ [])
    (all : ∀ c ∈ digits, c.isDigit = true) (le : digitsValue digits ≤ 2 ^ 53) :
    ∃ x, read? (String.ofList digits) = some x ∧ Binary64.Represents x (digitsValue digits) := by
  have whole : splitDigits digits = (digits, []) :=
    Prod.ext (List.takeWhile_eq_self_iff.2 all) (List.dropWhile_eq_nil_iff.2 all)
  have decimal : decimal? digits = some ⟨digitsValue digits, 0⟩ := by
    simp [decimal?, whole, splitFraction, exponent?, Numeral.decimal, nonempty]
  have nearest : Decimal.nearest ⟨digitsValue digits, 0⟩ =
      Binary64.nearest (digitsValue digits * Binary64.one) 1 := by
    simpa using Decimal.nearest_natCast (digitsValue digits) 0
  refine ⟨_, ?_, Binary64.represents_nearest (digitsValue digits) le⟩
  rw [read?, String.toList_ofList, readChars?_of_numeral digits
    (fun c member => Text.isNumeralChar_of_isDigit c (all c member)), decimal, Option.map_some, nearest]

end Reckoner
