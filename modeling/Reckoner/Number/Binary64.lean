/-!
Binary64 numbers as patterns. Every finite magnitude is a whole number of units of `2 ^ -1074`, the
least positive magnitude, so exact arithmetic on magnitudes is arithmetic on naturals. A pattern is
the bit pattern of a magnitude without the sign; patterns are in the order of their magnitudes.
-/

namespace Reckoner

-- Powers of naturals are the built-in ones, whichever other libraries are imported.
attribute [scoped instance (20000), default_instance (20000)] instPowNat

namespace Binary64

/-- The pattern of infinity. Smaller patterns are finite, larger ones are no numbers. -/
def infinity : Nat := 2047 * 2 ^ 52

def shift (pattern : Nat) : Nat :=
  pattern / 2 ^ 52 - 1

/-- The significand of a finite pattern, with its leading bit. -/
def significand (pattern : Nat) : Nat :=
  pattern - shift pattern * 2 ^ 52

def units (pattern : Nat) : Nat :=
  significand pattern * 2 ^ shift pattern

/-- A unit is `2 ^ -depth`. -/
@[irreducible] def depth : Nat := 1074

def one : Nat := 2 ^ depth

theorem shift_add_significand (pattern : Nat) :
    shift pattern * 2 ^ 52 + significand pattern = pattern := by
  unfold significand shift
  omega

theorem significand_lt (pattern : Nat) : significand pattern < 2 ^ 53 := by
  unfold significand shift
  omega

theorem le_significand {pattern : Nat} (shifted : 0 < shift pattern) :
    2 ^ 52 ≤ significand pattern := by
  unfold significand
  unfold shift at *
  omega

theorem one_pos : 0 < one := Nat.two_pow_pos depth

inductive Kind
  | nan
  | infinite (negative : Bool)
  | finite (negative : Bool) (pattern : Nat)
  deriving DecidableEq, Repr

def kind (x : Float) : Kind :=
  let negative : Bool := 2 ^ 63 ≤ x.toBits.toNat
  let pattern := x.toBits.toNat % 2 ^ 63
  if pattern < infinity then .finite negative pattern
  else if pattern = infinity then .infinite negative
  else .nan

def ofPattern (negative : Bool) (pattern : Nat) : Float :=
  Float.ofBits (UInt64.ofNat (if negative then 2 ^ 63 + pattern else pattern))

def nan : Float := Float.ofBits 0x7ff8000000000000

end Binary64
end Reckoner
