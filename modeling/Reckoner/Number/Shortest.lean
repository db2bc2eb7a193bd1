import Reckoner.Number.Decimal

/-!
The shortest decimal of a binary64 magnitude: of the decimals that are read as it, the one on the
coarsest decimal grid, and of two on that grid the nearer one. The exact magnitude is a whole number
of grains of `10 ^ -1074`, so the search ends at the latest on the grid of single grains.
-/

namespace Reckoner.Decimal

/-- The multiple of a step next to a number that is accepted: the nearer one if both neighbours are,
and the upper one if they are equally near. -/
def neighbour? (accepts : Nat → Bool) (exact step : Nat) : Option Nat :=
  let below := exact / step
  let above := below + 1
  match accepts (below * step), accepts (above * step) with
  | true, true => some (if 2 * (exact % step) < step then below else above)
  | true, false => some below
  | false, true => some above
  | false, false => none

/-- The count and the place of the first accepted neighbour on a grid with a step of `10 ^ place`,
from a place down; the number itself at the end. -/
def search (accepts : Nat → Bool) (exact : Nat) : Nat → Nat × Nat
  | 0 => (exact, 0)
  | place + 1 =>
    match neighbour? accepts exact (10 ^ (place + 1)) with
    | some count => (count, place + 1)
    | none => search accepts exact place

def grainsPerUnit : Nat := 5 ^ Binary64.depth

def grains (pattern : Nat) : Nat :=
  Binary64.units pattern * grainsPerUnit

def readsAs (pattern count : Nat) : Bool :=
  Binary64.nearest count grainsPerUnit == pattern

def placesAbove (n : Nat) : Nat :=
  (n.log2 + 1) * 28 / 93 + 1

def shortest (pattern : Nat) : Decimal :=
  if pattern = 0 then ⟨0, 0⟩
  else
    let found := search (readsAs pattern) (grains pattern) (placesAbove (grains pattern))
    ⟨found.1, found.2 - Binary64.depth⟩

theorem accepts_neighbour {accepts : Nat → Bool} {exact step count : Nat}
    (found : neighbour? accepts exact step = some count) : accepts (count * step) = true := by
  unfold neighbour? at found
  dsimp only at found
  split at found
  · split at found <;> cases found <;> assumption
  · cases found; assumption
  · cases found; assumption
  · cases found

theorem accepts_search {accepts : Nat → Bool} {exact : Nat} (accepted : accepts exact = true)
    (place : Nat) :
    accepts ((search accepts exact place).1 * 10 ^ (search accepts exact place).2) = true := by
  induction place with
  | zero => simpa [search] using accepted
  | succ place ih =>
    unfold search
    split
    · next found => exact accepts_neighbour found
    · exact ih

theorem lt_ten_pow_placesAbove (n : Nat) : n < 10 ^ placesAbove n :=
  Nat.lt_of_lt_of_le Nat.lt_log2_self (two_pow_le_ten_pow (by unfold placesAbove; omega))

theorem grainsPerUnit_pos : 0 < grainsPerUnit := Nat.pow_pos (by decide)

theorem ten_pow_depth : 10 ^ Binary64.depth = Binary64.one * grainsPerUnit := by
  rw [Binary64.one, grainsPerUnit, ← Nat.mul_pow]

theorem nearest_grid (count place : Nat) :
    nearest ⟨count, place - Binary64.depth⟩ =
      Binary64.nearest (count * 10 ^ place) grainsPerUnit := by
  rw [nearest_sub, ten_pow_depth, Nat.mul_comm Binary64.one,
    Binary64.nearest_scale _ _ Binary64.one_pos]

theorem readsAs_iff {pattern count : Nat} :
    readsAs pattern count = true ↔ Binary64.nearest count grainsPerUnit = pattern :=
  beq_iff_eq

theorem readsAs_grains {pattern : Nat} (finite : pattern < Binary64.infinity) :
    readsAs pattern (grains pattern) = true :=
  readsAs_iff.2 (Binary64.nearest_units finite grainsPerUnit_pos)

/-- The shortest decimal of a finite pattern is read as that pattern. -/
theorem nearest_shortest {pattern : Nat} (finite : pattern < Binary64.infinity) :
    (shortest pattern).nearest = pattern := by
  unfold shortest
  split
  · next zero => rw [zero]; rfl
  · dsimp only
    rw [nearest_grid]
    exact readsAs_iff.1 (accepts_search (readsAs_grains finite) _)

end Reckoner.Decimal
