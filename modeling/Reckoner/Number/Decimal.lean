import Reckoner.Number.Rounding

/-!
Decimals and the binary64 numbers nearest to them.
-/

namespace Reckoner

/-- The magnitude `coefficient * 10 ^ exponent`. -/
structure Decimal where
  coefficient : Nat
  exponent : Int
  deriving DecidableEq, Repr

namespace Decimal

def digits (d : Decimal) : List Char :=
  Nat.toDigits 10 d.coefficient

/-- How many of the digits stand before the decimal point; zeros are missing if more than there are,
and stand after the point if negative. -/
def pointPlace (d : Decimal) : Int :=
  d.digits.length + d.exponent

/-- The binary64 pattern nearest to a decimal. Exponents that leave no doubt are not carried out:
from `10 ^ 309` up all is infinite, and below `2 ^ -1075` all is zero. -/
def nearest (d : Decimal) : Nat :=
  if d.coefficient = 0 then 0
  else match d.exponent with
    | .ofNat e =>
      if 309 ≤ e then Binary64.infinity
      else Binary64.nearest (d.coefficient * 10 ^ e * Binary64.one) 1
    | .negSucc e =>
      if d.coefficient.log2 + 1076 < 3 * (e + 1) then 0
      else Binary64.nearest (d.coefficient * Binary64.one) (10 ^ (e + 1))

theorem two_pow_le_ten_pow {m n : Nat} (h : 28 * m ≤ 93 * n) : 2 ^ m ≤ 10 ^ n := by
  rw [← Nat.pow_le_pow_iff_left (show 28 ≠ 0 by decide), ← Nat.pow_mul, ← Nat.pow_mul]
  calc 2 ^ (m * 28) ≤ 2 ^ (93 * n) := Nat.pow_le_pow_right (by decide) (by omega)
    _ = (2 ^ 93) ^ n := Nat.pow_mul ..
    _ ≤ (10 ^ 28) ^ n := Nat.pow_le_pow_left (by decide) _
    _ = 10 ^ (n * 28) := by rw [← Nat.pow_mul, Nat.mul_comm]

theorem nearest_natCast (coefficient e : Nat) :
    nearest ⟨coefficient, e⟩ = Binary64.nearest (coefficient * 10 ^ e * Binary64.one) 1 := by
  unfold nearest
  by_cases zero : coefficient = 0
  · subst zero
    simp [Binary64.nearest_eq_zero]
  · simp only [zero, if_false]
    split
    · next high =>
      obtain ⟨bits, length⟩ : ∃ bits, bits = 1024 := ⟨_, rfl⟩
      have power : 2 ^ bits ≤ coefficient * 10 ^ e :=
        Nat.le_trans (two_pow_le_ten_pow (by omega)) (Nat.le_mul_of_pos_left _ (by omega))
      have large : 1 * 2 ^ (bits + Binary64.depth) ≤ coefficient * 10 ^ e * Binary64.one := by
        rw [Nat.one_mul, Nat.pow_add]
        exact Nat.mul_le_mul_right _ power
      exact (Binary64.nearest_eq_infinity Nat.one_pos (by unfold Binary64.depth; omega) large).symm
    · rfl

theorem nearest_neg_natCast (coefficient e : Nat) :
    nearest ⟨coefficient, -e⟩ = Binary64.nearest (coefficient * Binary64.one) (10 ^ e) := by
  cases e with
  | zero => simpa using nearest_natCast coefficient 0
  | succ e =>
    unfold nearest
    by_cases zero : coefficient = 0
    · have small : 2 * (coefficient * Binary64.one) < 10 ^ (e + 1) := by
        rw [zero, Nat.zero_mul]
        exact Nat.pow_pos (by decide)
      rw [if_pos zero, Binary64.nearest_eq_zero small]
    · simp only [zero, if_false, show -((e + 1 : Nat) : Int) = Int.negSucc e from rfl]
      split
      · next low =>
        symm
        apply Binary64.nearest_eq_zero
        calc 2 * (coefficient * Binary64.one)
            < 2 * (2 ^ (coefficient.log2 + 1) * Binary64.one) :=
              Nat.mul_lt_mul_of_pos_left
                (Nat.mul_lt_mul_of_pos_right Nat.lt_log2_self Binary64.one_pos) (by decide)
          _ = 2 ^ (coefficient.log2 + 1 + Binary64.depth + 1) := by
            rw [Binary64.one, ← Nat.pow_add, ← Nat.pow_succ']
          _ ≤ 2 ^ (3 * (e + 1)) := Nat.pow_le_pow_right (by decide) (by unfold Binary64.depth; omega)
          _ = 8 ^ (e + 1) := Nat.pow_mul ..
          _ ≤ 10 ^ (e + 1) := Nat.pow_le_pow_left (by decide) _
      · rfl

theorem nearest_sub (coefficient a b : Nat) :
    nearest ⟨coefficient, a - b⟩ =
      Binary64.nearest (coefficient * 10 ^ a * Binary64.one) (10 ^ b) := by
  rcases Nat.le_total b a with le | le
  · obtain ⟨e, rfl⟩ := Nat.exists_eq_add_of_le le
    rw [show ((b + e : Nat) : Int) - b = e by omega, nearest_natCast,
      ← Binary64.nearest_scale _ 1 (Nat.pow_pos (by decide) : 0 < 10 ^ b), Nat.one_mul, Nat.pow_add]
    congr 1
    ac_rfl
  · obtain ⟨e, rfl⟩ := Nat.exists_eq_add_of_le le
    rw [show (a : Int) - (a + e : Nat) = -(e : Int) by omega, nearest_neg_natCast,
      ← Binary64.nearest_scale _ _ (Nat.pow_pos (by decide) : 0 < 10 ^ a), ← Nat.pow_add,
      Nat.add_comm e a]
    congr 1
    ac_rfl

theorem nearest_mul_ten_pow (coefficient k : Nat) (exponent : Int) :
    nearest ⟨coefficient * 10 ^ k, exponent - k⟩ = nearest ⟨coefficient, exponent⟩ := by
  obtain ⟨a, b, rfl⟩ : ∃ a b : Nat, exponent = a - b :=
    ⟨exponent.toNat, (-exponent).toNat, by omega⟩
  rw [show (a : Int) - b - k = a - (b + k : Nat) by omega, nearest_sub, nearest_sub,
    ← Binary64.nearest_scale _ (10 ^ b) (Nat.pow_pos (by decide) : 0 < 10 ^ k), ← Nat.pow_add]
  congr 1
  ac_rfl

end Decimal
end Reckoner
