import Reckoner.Text.Printable

/-!
Quoted texts. The delimiter and the backslash are written after a backslash, the common controls
by their letters, and every other character that would not be seen by its code point.
-/

namespace Reckoner.Text

def codePoint (c : Char) : List Char :=
  ['\\', 'u', '\x7b'] ++ Nat.toDigits 16 c.toNat ++ ['\x7d']

def escape (delimiter c : Char) : List Char :=
  if c = '\x00' then ['\\', '0']
  else if c = '\t' then ['\\', 't']
  else if c = '\r' then ['\\', 'r']
  else if c = '\n' then ['\\', 'n']
  else if c = '\\' ∨ c = delimiter then ['\\', c]
  else if isShown c then [c]
  else codePoint c

def enclose (delimiter : Char) (cs : List Char) : String :=
  String.ofList (delimiter :: cs.flatMap (escape delimiter) ++ [delimiter])

def quote (text : String) : String :=
  enclose '\x22' text.toList

def quoteChar (c : Char) : String :=
  enclose '\x27' [c]

end Reckoner.Text
