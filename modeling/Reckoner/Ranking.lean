import Reckoner.Token

/-!
Rankings of symbols. A symbol of higher rank binds more tightly; one without an entry has rank zero.
-/

namespace Reckoner

abbrev Rank := Fin 256

/-- Symbols with their ranks. Of several entries for a symbol the last one counts. -/
structure Ranking where
  entries : List (Char × Rank)
  deriving Repr

namespace Ranking

def standard : Ranking :=
  ⟨[('+', 1), ('-', 1), ('×', 2), ('÷', 2), ('%', 2)]⟩

def entry? (ranking : Ranking) (symbol : Char) : Option Rank :=
  ranking.entries.reverse.lookup symbol

def rank (ranking : Ranking) (symbol : Char) : Rank :=
  (ranking.entry? symbol).getD 0

def rankOf (ranking : Ranking) (token : Token) : Rank :=
  token.symbol?.elim 0 ranking.rank

/-- Rankings are equal if they have entries for the same symbols, with the same ranks. -/
instance : BEq Ranking where
  beq a b := (a.entries ++ b.entries).all fun (symbol, _) => a.entry? symbol == b.entry? symbol

end Ranking
end Reckoner
