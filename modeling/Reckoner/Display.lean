import Reckoner.Number.Style

/-!
Results as the display of a calculator shows them.
-/

namespace Reckoner.Display

/-- Zero and the magnitudes from `10 ^ -3` up to but not including `10 ^ 7` are written out, the rest
in scientific form, and a point is always followed by a digit. -/
def style : NumberStyle := ⟨some (3, 7), true, true, 'E', "Infinity"⟩

def text (x : Float) : String := style.text x

end Reckoner.Display
