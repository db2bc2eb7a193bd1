import Reckoner.Ranking
import Reckoner.Stack

/-!
Reverse Polish order. A symbol waits on the siding of a shunting yard until one of no higher rank
arrives, so symbols of equal rank leave in the order in which they came; numbers pass through.
-/

namespace Reckoner.Rpn

structure Yard (α : Type) where
  departed : Array α
  siding : Stack α

namespace Yard

variable {α : Type}

def empty : Yard α := ⟨#[], .empty⟩

/-- The yard after an arrival. One that waits sends off the top of the siding as long as its own rank
is no higher. -/
def receive (waits : α → Bool) (rank : α → Rank) (yard : Yard α) (a : α) : Yard α :=
  if waits a then
    let (leaving, staying) := yard.siding.popWhile fun top => rank a ≤ rank top
    ⟨yard.departed ++ leaving, staying.push a⟩
  else { yard with departed := yard.departed.push a }

def clear (yard : Yard α) : List α :=
  yard.departed.toList ++ yard.siding.topDown

def reorder (waits : α → Bool) (rank : α → Rank) (arrivals : List α) : List α :=
  (arrivals.foldl (receive waits rank) empty).clear

end Yard

def ofInfix (ranking : Ranking) (tokens : List Token) : List Token :=
  Yard.reorder (fun token => !token.isNumber) ranking.rankOf tokens

end Reckoner.Rpn
