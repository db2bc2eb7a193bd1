import Reckoner.Number.Shortest
import Reckoner.Proofs.Number.Digits
import Reckoner.Proofs.Number.Nearest

/-! The shortest decimal is the coarsest one. If any number on a decimal grid is read as a pattern, so
is a neighbour of its magnitude on that grid, and the search stops there or before. So the coefficient
of the shortest decimal ends in no zero. -/

namespace Reckoner.Decimal
open Binary64 Numeral

section Search
variable {accepts : Nat → Bool} {exact : Nat}

theorem neighbour_le {step count : Nat} (found : neighbour? accepts exact step = some count) :
    count ≤ exact / step + 1 := by
  unfold neighbour? at found
  dsimp only at found
  split at found
  · split at found
    · cases found
      omega
    · cases found
      omega
  · cases found
    omega
  · cases found
    omega
  · cases found

theorem exists_neighbour {step : Nat} (accepted : accepts (exact / step * step) = true ∨
    accepts ((exact / step + 1) * step) = true) :
    ∃ near, neighbour? accepts exact step = some near := by
  unfold neighbour?
  dsimp only
  split
  next => exact ⟨_, rfl⟩
  next => exact ⟨_, rfl⟩
  next => exact ⟨_, rfl⟩
  next below above => simp [below, above] at accepted

theorem search_place_le (accepts : Nat → Bool) (exact start : Nat) :
    (search accepts exact start).2 ≤ start := by
  induction start with
  | zero => exact Nat.le_refl 0
  | succ start ih =>
    unfold search
    split
    · exact Nat.le_refl _
    · exact Nat.le_succ_of_le ih

theorem search_count_le (accepts : Nat → Bool) (exact start : Nat) :
    (search accepts exact start).1 ≤ exact / 10 ^ (search accepts exact start).2 + 1 := by
  induction start with
  | zero => simp [search]
  | succ start ih =>
    unfold search
    split
    · next found => exact neighbour_le found
    · exact ih

theorem le_search_place {place start : Nat} (le : place ≤ start)
    (accepted : ∃ near, neighbour? accepts exact (10 ^ place) = some near) :
    place ≤ (search accepts exact start).2 := by
  induction start with
  | zero => omega
  | succ start ih =>
    unfold search
    split
    · exact le
    · next none =>
      rcases Nat.lt_or_eq_of_le le with below | rfl
      · exact ih (Nat.le_of_lt_succ below)
      · obtain ⟨near, found⟩ := accepted
        rw [none] at found
        cases found

end Search

variable {pattern : Nat}

/-- What is read as a pattern is an interval around its magnitude, so of the numbers on a grid in it
one is a neighbour of the magnitude. -/
theorem exists_neighbour_of_readsAs {count step : Nat} (finite : pattern < infinity)
    (positive : 0 < step) (accepted : readsAs pattern (count * step) = true) :
    ∃ near, neighbour? (readsAs pattern) (grains pattern) step = some near := by
  have self := readsAs_iff.1 (readsAs_grains finite)
  rw [readsAs_iff] at accepted
  apply exists_neighbour
  simp only [readsAs_iff]
  rcases Nat.lt_or_ge (grains pattern / step) count with right | left
  · have above : grains pattern < (grains pattern / step + 1) * step :=
      Nat.lt_mul_of_div_lt (Nat.lt_succ_self _) positive
    exact Or.inr (nearest_eq_of_between (Nat.le_of_lt above) (Nat.mul_le_mul_right _ right) self
      accepted)
  · exact Or.inl (nearest_eq_of_between (Nat.mul_le_mul_right _ left) (Nat.div_mul_le_self _ _)
      accepted self)

theorem not_readsAs_zero (positive : 0 < pattern) : readsAs pattern 0 = false := by
  have zero : Binary64.nearest 0 grainsPerUnit = 0 :=
    nearest_eq_zero (by have := grainsPerUnit_pos; omega)
  rw [← Bool.not_eq_true, readsAs_iff, zero]
  omega

/-- What is known of the shortest decimal of a pattern, a count of some power of ten grains. -/
structure Shortest (pattern count place : Nat) : Prop where
  reads : readsAs pattern (count * 10 ^ place) = true
  coarsest : ∀ other j, 10 ^ j ≤ grains pattern →
    readsAs pattern (other * 10 ^ j) = true → j ≤ place
  ends_in_no_zero : ¬ 10 ∣ count

theorem exists_shortest (finite : pattern < infinity) (positive : 0 < pattern) :
    ∃ count place : Nat, shortest pattern = ⟨count, place - depth⟩ ∧
      Shortest pattern count place := by
  obtain ⟨start, first⟩ : ∃ start, placesAbove (grains pattern) = start := ⟨_, rfl⟩
  have high : grains pattern < 10 ^ start := first ▸ lt_ten_pow_placesAbove _
  have shape : shortest pattern =
      ⟨(search (readsAs pattern) (grains pattern) start).1,
        (search (readsAs pattern) (grains pattern) start).2 - depth⟩ := by
    rw [shortest, if_neg (Nat.ne_of_gt positive), first]
  have reads := accepts_search (readsAs_grains finite) start
  have atMost := search_count_le (readsAs pattern) (grains pattern) start
  have within := search_place_le (readsAs pattern) (grains pattern) start
  have coarsest : ∀ other j, j ≤ start → readsAs pattern (other * 10 ^ j) = true →
      j ≤ (search (readsAs pattern) (grains pattern) start).2 := fun other j le accepted =>
    le_search_place le (exists_neighbour_of_readsAs finite (Nat.pow_pos (by decide)) accepted)
  generalize search (readsAs pattern) (grains pattern) start = found at *
  obtain ⟨count, place⟩ := found
  refine ⟨count, place, shape, reads, ?_, ?_⟩
  · intro other j le accepted
    have below : j < start :=
      (Nat.pow_lt_pow_iff_right (show 1 < 10 by decide)).1 (Nat.lt_of_le_of_lt le high)
    exact coarsest other j (Nat.le_of_lt below) accepted
  · -- Otherwise a tenth of the count would be accepted one place up, above which nothing is left.
    rintro ⟨tenth, rfl⟩
    dsimp only at *
    have up : 10 * tenth * 10 ^ place = tenth * 10 ^ (place + 1) := by
      rw [Nat.pow_succ]
      ac_rfl
    rw [up] at reads
    rcases Nat.lt_or_eq_of_le within with below | rfl
    · have := coarsest tenth (place + 1) below reads
      omega
    · rw [Nat.div_eq_of_lt high] at atMost
      have nothing : tenth = 0 := by omega
      rw [nothing, Nat.zero_mul, not_readsAs_zero positive] at reads
      cases reads

theorem not_dvd_coefficient_shortest (finite : pattern < infinity) (positive : 0 < pattern) :
    ¬ 10 ∣ (shortest pattern).coefficient := by
  obtain ⟨count, place, shape, short⟩ := exists_shortest finite positive
  rw [shape]
  exact short.ends_in_no_zero

section Bounds
variable (finite : pattern < infinity) (positive : 0 < pattern) (j : Nat)
include finite positive

theorem pointPlace_shortest_le (below : pattern < nearest ⟨1, j - depth⟩) :
    (shortest pattern).pointPlace ≤ j - depth := by
  obtain ⟨count, place, shape, short⟩ := exists_shortest finite positive
  rw [nearest_grid, Nat.one_mul] at below
  rw [shape, pointPlace, digits]
  dsimp only
  by_contra reaches
  have some_digit : 0 < (Nat.toDigits 10 count).length := Nat.length_toDigits_pos
  have leading : 10 ^ (j - place) ≤ count :=
    ten_pow_le_of_lt_length_toDigits count (j - place) (pos_of_not_ten_dvd short.ends_in_no_zero)
      (by omega)
  have power : 10 ^ j ≤ count * 10 ^ place :=
    calc 10 ^ j ≤ 10 ^ (j - place + place) := Nat.pow_le_pow_right (by decide) (by omega)
      _ = 10 ^ (j - place) * 10 ^ place := Nat.pow_add ..
      _ ≤ count * 10 ^ place := Nat.mul_le_mul_right _ leading
  have order := nearest_mono grainsPerUnit power
  rw [readsAs_iff.1 short.reads] at order
  omega

/-- The shortest decimal of a number from a power of ten up is not below that power. Digits that stay
below could be read as the power only, which has a coarser decimal with a single digit. -/
theorem lt_pointPlace_shortest (above : 10 ^ j ≤ grains pattern) :
    (j : Int) - depth < (shortest pattern).pointPlace := by
  obtain ⟨count, place, shape, short⟩ := exists_shortest finite positive
  rw [shape, pointPlace, digits]
  dsimp only
  by_contra stays
  have some_digit : 0 < (Nat.toDigits 10 count).length := Nat.length_toDigits_pos
  have leading : count < 10 ^ (Nat.toDigits 10 count).length := lt_ten_pow_length_toDigits count
  have power : count * 10 ^ place ≤ 10 ^ j :=
    calc count * 10 ^ place ≤ 10 ^ (Nat.toDigits 10 count).length * 10 ^ place :=
          Nat.mul_le_mul_right _ (Nat.le_of_lt leading)
      _ = 10 ^ ((Nat.toDigits 10 count).length + place) := (Nat.pow_add ..).symm
      _ ≤ 10 ^ j := Nat.pow_le_pow_right (by decide) (by omega)
  have same := nearest_eq_of_between power above (readsAs_iff.1 short.reads)
    (readsAs_iff.1 (readsAs_grains finite))
  have coarse := short.coarsest 1 j above (by rw [Nat.one_mul, readsAs_iff, same])
  omega

end Bounds

end Reckoner.Decimal
