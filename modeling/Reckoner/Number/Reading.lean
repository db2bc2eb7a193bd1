import Reckoner.Number.Decimal

/-!
Reading numerals. A numeral is a word for infinity or for no number, or decimal digits with at most
one point and an optional exponent; each may have a sign. Its value is the nearest binary64 number.
-/

namespace Reckoner.Numeral

def splitSign : List Char → Bool × List Char
  | '-' :: rest => (true, rest)
  | '+' :: rest => (false, rest)
  | rest => (false, rest)

def splitDigits (cs : List Char) : List Char × List Char :=
  (cs.takeWhile Char.isDigit, cs.dropWhile Char.isDigit)

def digitsValue (cs : List Char) : Nat :=
  Nat.ofDigitChars 10 cs 0

def exponent? : List Char → Option Int
  | [] => some 0
  | mark :: rest =>
    if mark = 'e' ∨ mark = 'E' then
      let (negative, digits) := splitSign rest
      if digits.isEmpty || !digits.all Char.isDigit then none
      else some (if negative then -digitsValue digits else digitsValue digits)
    else none

def splitFraction : List Char → List Char × List Char
  | '.' :: rest => splitDigits rest
  | rest => ([], rest)

def decimal (whole fraction : List Char) (exponent : Int) : Decimal :=
  ⟨digitsValue (whole ++ fraction), exponent - fraction.length⟩

def decimal? (cs : List Char) : Option Decimal :=
  let (whole, afterWhole) := splitDigits cs
  let (fraction, afterFraction) := splitFraction afterWhole
  if whole.isEmpty && fraction.isEmpty then none
  else (exponent? afterFraction).map (decimal whole fraction)

def readChars? (cs : List Char) : Option Float :=
  let (negative, rest) := splitSign cs
  let word := rest.map Char.toLower
  if word = "inf".toList ∨ word = "infinity".toList then
    some (Binary64.ofPattern negative Binary64.infinity)
  else if word = "nan".toList then some Binary64.nan
  else (decimal? rest).map fun d => Binary64.ofPattern negative d.nearest

def read? (text : String) : Option Float :=
  readChars? text.toList

end Reckoner.Numeral
