import Reckoner.Text.Numeral
import Reckoner.Token

/-!
Scanning. A longest run of numeral characters is a number, every other character a symbol.
-/

namespace Reckoner.Token

def numberOf : List Char → List Token
  | [] => []
  | run => [.number (String.ofList run.reverse)]

def scanAfter (run : List Char) : List Char → List Token
  | [] => numberOf run
  | c :: rest =>
    if Text.isNumeralChar c then scanAfter (c :: run) rest
    else numberOf run ++ .symbol c :: scanAfter [] rest

def scan (expression : String) : List Token :=
  scanAfter [] expression.toList

end Reckoner.Token
