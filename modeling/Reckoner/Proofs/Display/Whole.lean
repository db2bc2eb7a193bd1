import Reckoner.Proofs.Display.Range
import Reckoner.Proofs.Number.Coarsest
import Reckoner.Proofs.Number.Whole

/-! Whole numbers on the display. One below `10 ^ 7` is shown by its decimal digits with a point and a
zero after them, since no other whole number is read as it and its own digits are on a coarser grid
than any fraction. -/

namespace Reckoner

namespace Decimal
open Binary64 Numeral

/-- The shortest decimal of a whole number has no places after the point, and its value is exact. -/
theorem shortest_of_whole (n pattern : Nat) (positive : 0 < n) (small : n < 2 ^ 53)
    (finite : pattern < infinity) (magnitude : units pattern = n * one) :
    ∃ count e : Nat, shortest pattern = ⟨count, e⟩ ∧ 0 < count ∧ count * 10 ^ e = n := by
  have above : 0 < pattern := by
    rw [← units_lt_units_iff, magnitude]
    exact Nat.mul_pos positive one_pos
  have exact : grains pattern = n * 10 ^ depth := by
    rw [grains, magnitude, ten_pow_depth, Nat.mul_assoc]
  obtain ⟨count, place, shape, short⟩ := exists_shortest finite above
  have coarse : depth ≤ place := short.coarsest n depth
    (exact ▸ Nat.le_mul_of_pos_left _ positive) (exact ▸ readsAs_grains finite)
  obtain ⟨e, rfl⟩ := Nat.exists_eq_add_of_le coarse
  have same : Binary64.nearest (count * 10 ^ e * one) 1 = Binary64.nearest (n * one) 1 := by
    have reads := readsAs_iff.1 short.reads
    rw [Nat.pow_add, ten_pow_depth] at reads
    have read := nearest_units finite Nat.one_pos
    rw [magnitude, Nat.mul_one] at read
    rw [read, ← reads, ← nearest_scale _ 1 grainsPerUnit_pos, Nat.one_mul]
    congr 1
    ac_rfl
  refine ⟨count, e, ?_, pos_of_not_ten_dvd short.ends_in_no_zero, eq_of_nearest_whole_eq small same⟩
  rw [shape]
  congr 1
  omega

theorem positionalText_of_natCast (count e : Nat) (positive : 0 < count) :
    (⟨count, e⟩ : Decimal).positionalText true = Nat.toDigits 10 (count * 10 ^ e) ++ ['.', '0'] := by
  have some_digit : 0 < (Nat.toDigits 10 count).length := Nat.length_toDigits_pos
  obtain ⟨p, length⟩ : ∃ p, (Nat.toDigits 10 count).length + e = p + 1 :=
    ⟨(Nat.toDigits 10 count).length + e - 1, by omega⟩
  have written : (⟨count, e⟩ : Decimal).digits = Nat.toDigits 10 count := rfl
  have place : (⟨count, e⟩ : Decimal).pointPlace = Int.ofNat (p + 1) := by
    rw [pointPlace, written, Int.ofNat_eq_natCast]
    dsimp only
    omega
  have padding : p + 1 - (Nat.toDigits 10 count).length = e := by omega
  rw [positionalText, place, written]
  dsimp only
  rw [padding, List.take_of_length_le (by omega), List.drop_of_length_le (by omega),
    toDigits_mul_ten_pow count e positive]
  rfl

end Decimal

namespace Display
open Binary64

theorem magnitudeText_of_whole (n pattern : Nat) (small : n < 10 ^ 7) (finite : pattern < infinity)
    (magnitude : units pattern = n * one) :
    style.magnitudeText pattern = Nat.toDigits 10 n ++ ['.', '0'] := by
  have positional : style.isPositional pattern = true := by
    rw [isPositional_iff, ← units_eq_zero_iff, ← leastPlain_le_iff, ← lt_abovePlain_iff, magnitude]
    rcases Nat.eq_zero_or_pos n with rfl | positive
    · exact Or.inl (Nat.zero_mul one)
    · refine Or.inr ⟨?_, ?_⟩
      · rw [Nat.mul_right_comm]
        exact Nat.le_mul_of_pos_left one (Nat.mul_pos positive (by decide))
      · rw [Nat.mul_comm one]
        exact Nat.mul_lt_mul_of_pos_right small one_pos
  rw [magnitudeText_positional pattern positional]
  rcases Nat.eq_zero_or_pos n with rfl | positive
  · have nothing : pattern = 0 := units_injective (magnitude.trans (Nat.zero_mul one))
    rw [nothing]
    rfl
  · obtain ⟨count, e, shape, some_count, value⟩ :=
      Decimal.shortest_of_whole n pattern positive (by omega) finite magnitude
    rw [shape, Decimal.positionalText_of_natCast count e some_count, value]

theorem text_of_represents (x : Float) (n : Int) (whole : Represents x n) (small : n.natAbs < 10 ^ 7) :
    text x = toString n ++ ".0" := by
  obtain ⟨pattern, finite, magnitude⟩ := whole
  have inside := ((kind_eq_finite_iff x _ pattern).1 finite).1
  rw [← String.toList_inj, text, NumberStyle.text, finite, String.toList_ofList]
  dsimp only
  rw [magnitudeText_of_whole n.natAbs pattern small inside magnitude, String.toList_append,
    Int.toString_eq_repr, Int.repr_eq_if]
  by_cases negative : n < 0
  · have absolute : (-n).toNat = n.natAbs := by omega
    rw [decide_eq_true negative, if_neg (Int.not_le.2 negative), absolute]
    simp [NumberStyle.signed]
  · have absolute : n.toNat = n.natAbs := by omega
    rw [decide_eq_false negative, if_pos (Int.not_lt.1 negative), absolute]
    simp [NumberStyle.signed]

end Display
end Reckoner
