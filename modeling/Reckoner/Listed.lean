import Reckoner.Number.Style
import Reckoner.Text.Quoted

/-!
Values as an entry of a list shows them: texts and characters in quotes, numbers with a point.
-/

namespace Reckoner

class Listed (α : Type) where
  entry : α → String

namespace Listed

/-- Zero and the magnitudes from `10 ^ -4` up to but not including `10 ^ 16` are written out with a
point, the rest in scientific form with no more digits than they need. -/
def numberStyle : NumberStyle := ⟨some (4, 16), true, false, 'e', "inf"⟩

instance : Listed Float := ⟨numberStyle.text⟩
instance : Listed Int := ⟨Int.repr⟩
instance : Listed String := ⟨Text.quote⟩
instance : Listed Char := ⟨Text.quoteChar⟩

def bracket {α : Type} [Listed α] (values : List α) : String :=
  "[" ++ ", ".intercalate (values.map entry) ++ "]"

end Listed
end Reckoner
