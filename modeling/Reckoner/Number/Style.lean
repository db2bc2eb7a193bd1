import Reckoner.Number.Shortest

/-!
Number texts. A style settles where the positional form ends, where a whole number keeps its point
and how the scientific form and infinity are spelled; the digits are the shortest ones in each.
-/

namespace Reckoner

/-- How numbers are written. With `(low, high)`, zero and the magnitudes from `10 ^ -low` up to but not
including `10 ^ high` are positional; with nothing, all are. In either form a point with a digit after it
may be required. -/
structure NumberStyle where
  positional : Option (Nat × Nat)
  positionalPoint : Bool
  scientificPoint : Bool
  mark : Char
  infinity : String

namespace Decimal

/-- Digits before and after a point. Where the point may be left out, it is if no digit follows. -/
def joinPoint (keep : Bool) (whole fraction : List Char) : List Char :=
  if !fraction.isEmpty then whole ++ '.' :: fraction
  else if keep then whole ++ ['.', '0']
  else whole

def positionalText (keep : Bool) (d : Decimal) : List Char :=
  match d.pointPlace with
  | .ofNat (p + 1) =>
    joinPoint keep (d.digits.take (p + 1) ++ List.replicate (p + 1 - d.digits.length) '0')
      (d.digits.drop (p + 1))
  | p => joinPoint keep ['0'] (List.replicate p.natAbs '0' ++ d.digits)

def exponentText : Int → List Char
  | .ofNat e => Nat.toDigits 10 e
  | .negSucc e => '-' :: Nat.toDigits 10 (e + 1)

def scientificText (keep : Bool) (mark : Char) (d : Decimal) : List Char :=
  joinPoint keep (d.digits.take 1) (d.digits.drop 1) ++ mark :: exponentText (d.pointPlace - 1)

end Decimal

namespace NumberStyle

def isPositional (style : NumberStyle) (pattern : Nat) : Bool :=
  match style.positional with
  | none => true
  | some (low, high) =>
    let units := Binary64.units pattern
    units == 0 || (Binary64.one ≤ units * 10 ^ low && units < Binary64.one * 10 ^ high)

def magnitudeText (style : NumberStyle) (pattern : Nat) : List Char :=
  if style.isPositional pattern then
    (Decimal.shortest pattern).positionalText style.positionalPoint
  else
    (Decimal.shortest pattern).scientificText style.scientificPoint style.mark

def signed (negative : Bool) (text : List Char) : List Char :=
  if negative then '-' :: text else text

def text (style : NumberStyle) (x : Float) : String :=
  String.ofList <| match Binary64.kind x with
    | .nan => ['N', 'a', 'N']
    | .infinite negative => signed negative style.infinity.toList
    | .finite negative pattern => signed negative (style.magnitudeText pattern)

end NumberStyle
end Reckoner
