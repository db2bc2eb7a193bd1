import Mathlib
import Reckoner.Proofs.Number.Positional

/-! How the digits of a number begin and end, and what stands around the point of a number text: a
whole number without zeros in front, and a fraction without zeros behind. -/

namespace Reckoner

namespace Numeral

theorem digitChar_eq_zero_iff (n : Nat) (digit : n < 10) : n.digitChar = '0' ↔ n = 0 := by
  decide +revert

theorem getLast?_toDigits (n : Nat) : (Nat.toDigits 10 n).getLast? = some (n % 10).digitChar := by
  rcases Nat.lt_or_ge n 10 with less | ge
  · rw [Nat.toDigits_of_lt_base less, Nat.mod_eq_of_lt less]
    rfl
  · rw [Nat.toDigits_of_base_le (by decide) ge, List.getLast?_concat]

theorem getLast?_toDigits_eq_zero_iff (n : Nat) :
    (Nat.toDigits 10 n).getLast? = some '0' ↔ 10 ∣ n := by
  rw [getLast?_toDigits, Option.some_inj, digitChar_eq_zero_iff _ (Nat.mod_lt _ (by decide)),
    Nat.dvd_iff_mod_eq_zero]

theorem pos_of_not_ten_dvd {n : Nat} (reduced : ¬ 10 ∣ n) : 0 < n :=
  Nat.pos_of_ne_zero fun zero => reduced (zero ▸ Nat.dvd_zero 10)

theorem head?_toDigits_ne_zero (n : Nat) (positive : 0 < n) :
    (Nat.toDigits 10 n).head? ≠ some '0' := by
  induction n using Nat.strong_induction_on with
  | _ n ih =>
    rcases Nat.lt_or_ge n 10 with less | ge
    · rw [Nat.toDigits_of_lt_base less, List.head?_singleton, Option.some_inj.ne,
        ne_eq, digitChar_eq_zero_iff n less]
      omega
    · rw [Nat.toDigits_of_base_le (by decide) ge,
        List.head?_append_of_ne_nil _ Nat.toDigits_ne_nil]
      exact ih (n / 10) (by omega) (by omega)

theorem toDigits_mul_ten_pow (n k : Nat) (positive : 0 < n) :
    Nat.toDigits 10 (n * 10 ^ k) = Nat.toDigits 10 n ++ List.replicate k '0' := by
  induction k with
  | zero => simp
  | succ k ih =>
    have left : 0 < n * 10 ^ k := Nat.mul_pos positive (Nat.pow_pos (by decide))
    have up : n * 10 ^ (k + 1) = 10 * (n * 10 ^ k) + 0 := by
      rw [Nat.pow_succ]
      ring
    rw [up, ← Nat.toDigits_append_toDigits (by decide) left (by decide), ih, Nat.toDigits_zero,
      List.append_assoc, ← List.replicate_succ']

theorem lt_ten_pow_length_toDigits (n : Nat) : n < 10 ^ (Nat.toDigits 10 n).length :=
  (Nat.length_toDigits_le_iff (by decide) Nat.length_toDigits_pos).1 (Nat.le_refl _)

theorem ten_pow_le_of_lt_length_toDigits (n k : Nat) (positive : 0 < n)
    (longer : k < (Nat.toDigits 10 n).length) : 10 ^ k ≤ n := by
  rcases Nat.eq_zero_or_pos k with rfl | some_digit
  · exact positive
  · rw [← Nat.not_lt, ← Nat.length_toDigits_le_iff (by decide) some_digit]
    omega

/-- Some digits, the first of them no zero unless it is the only one. -/
structure IsWhole (cs : List Char) : Prop where
  ne_nil : cs ≠ []
  digits : ∀ c ∈ cs, c.isDigit = true
  leading : cs.head? = some '0' → cs = ['0']

/-- Some digits, the last of them no zero unless it is the only one. -/
structure IsFraction (cs : List Char) : Prop where
  ne_nil : cs ≠ []
  digits : ∀ c ∈ cs, c.isDigit = true
  trailing : cs.getLast? = some '0' → cs = ['0']

theorem isWhole_zero : IsWhole ['0'] := ⟨by simp, by simp, fun _ => rfl⟩

theorem isFraction_zero : IsFraction ['0'] := ⟨by simp, by simp, fun _ => rfl⟩

theorem isWhole_toDigits (n : Nat) : IsWhole (Nat.toDigits 10 n) where
  ne_nil := Nat.toDigits_ne_nil
  digits := fun _ member => Nat.isDigit_of_mem_toDigits (by decide) (by decide) member
  leading := by
    intro zero
    rcases Nat.eq_zero_or_pos n with rfl | positive
    · rfl
    · exact absurd zero (head?_toDigits_ne_zero n positive)

end Numeral

namespace Decimal
open Numeral

theorem exists_joinPoint (whole after : List Char) (digits : ∀ c ∈ after, c.isDigit = true)
    (ends : after.getLast? ≠ some '0') :
    ∃ fraction, joinPoint true whole after = whole ++ '.' :: fraction ∧ IsFraction fraction := by
  by_cases nothing : after = []
  · subst nothing
    exact ⟨['0'], rfl, isFraction_zero⟩
  · exact ⟨after, joinPoint_of_ne_nil true whole after nothing, nothing, digits,
      fun zero => absurd zero ends⟩

variable (d : Decimal) (reduced : ¬ 10 ∣ d.coefficient)
include reduced

theorem getLast?_digits_ne_zero : d.digits.getLast? ≠ some '0' :=
  fun zero => reduced ((getLast?_toDigits_eq_zero_iff _).1 zero)

theorem head?_digits_ne_zero : d.digits.head? ≠ some '0' :=
  head?_toDigits_ne_zero _ (pos_of_not_ten_dvd reduced)

theorem getLast?_drop_digits_ne_zero (n : Nat) : (d.digits.drop n).getLast? ≠ some '0' := by
  rw [List.getLast?_drop]
  split
  · simp
  · exact d.getLast?_digits_ne_zero reduced

theorem positionalText_of_reduced :
    ∃ whole fraction, d.positionalText true = whole ++ '.' :: fraction ∧
      IsWhole whole ∧ IsFraction fraction := by
  have digits := d.isDigit_of_mem_digits
  unfold positionalText
  split
  next p place =>
    obtain ⟨fraction, text, after⟩ := exists_joinPoint
      (d.digits.take (p + 1) ++ List.replicate (p + 1 - d.digits.length) '0') (d.digits.drop (p + 1))
      (fun c member => digits c (List.mem_of_mem_drop member))
      (d.getLast?_drop_digits_ne_zero reduced (p + 1))
    refine ⟨_, fraction, text, ⟨?_, ?_, ?_⟩, after⟩
    · simp [d.digits_ne_nil]
    · rw [List.forall_mem_append]
      exact ⟨fun c member => digits c (List.mem_of_mem_take member), isDigit_of_mem_zeros _⟩
    · intro zero
      rw [List.head?_append_of_ne_nil _ (by simp [d.digits_ne_nil]), List.head?_take,
        if_neg (Nat.succ_ne_zero p)] at zero
      exact absurd zero (d.head?_digits_ne_zero reduced)
  next =>
    obtain ⟨fraction, text, after⟩ := exists_joinPoint ['0']
      (List.replicate d.pointPlace.natAbs '0' ++ d.digits)
      (List.forall_mem_append.2 ⟨isDigit_of_mem_zeros _, digits⟩)
      (by
        rw [List.getLast?_append_of_ne_nil _ d.digits_ne_nil]
        exact d.getLast?_digits_ne_zero reduced)
    exact ⟨['0'], fraction, text, isWhole_zero, after⟩

theorem scientificText_of_reduced :
    ∃ c fraction, c.isDigit = true ∧ c ≠ '0' ∧ IsFraction fraction ∧
      ∀ mark, d.scientificText true mark =
        c :: '.' :: (fraction ++ mark :: exponentText (d.pointPlace - 1)) := by
  have digits := d.isDigit_of_mem_digits
  obtain ⟨c, rest, list⟩ := List.exists_cons_of_ne_nil d.digits_ne_nil
  obtain ⟨fraction, text, after⟩ := exists_joinPoint [c] (d.digits.drop 1)
    (fun c member => digits c (List.mem_of_mem_drop member)) (d.getLast?_drop_digits_ne_zero reduced 1)
  have first := d.head?_digits_ne_zero reduced
  rw [list] at digits first
  refine ⟨c, fraction, digits c List.mem_cons_self, fun same => first (same ▸ rfl), after, ?_⟩
  intro mark
  have before : d.digits.take 1 = [c] := by rw [list, List.take_succ_cons, List.take_zero]
  rw [scientificText, before, text]
  simp

end Decimal
end Reckoner
