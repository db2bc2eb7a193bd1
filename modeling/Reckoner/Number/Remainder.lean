import Reckoner.Number.Rounding

namespace Reckoner.Binary64

/-- The remainder of truncated division, exact and with the sign of the dividend. There is none of
an infinity or by zero, and a finite number is its own remainder by an infinity. -/
def remainder (x y : Float) : Float :=
  match kind x, kind y with
  | .finite negative p, .finite _ q =>
    if units q = 0 then nan else ofPattern negative (nearest (units p % units q) 1)
  | .finite _ _, .infinite _ => x
  | _, _ => nan

end Reckoner.Binary64
