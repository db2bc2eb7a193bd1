import Reckoner.Text.Blank

/-!
Lines of a byte stream. A line feed ends a line, and a line need not be text: each is decoded on
its own.
-/

namespace Reckoner.Text

def splitLinesAfter (line : List UInt8) : List UInt8 → List (List UInt8)
  | [] => if line.isEmpty then [] else [line.reverse]
  | b :: rest =>
    if b = 10 then line.reverse :: splitLinesAfter [] rest else splitLinesAfter (b :: line) rest

/-- The lines of a stream. The bytes after the last line feed are a line unless there are none. -/
def splitLines (bytes : List UInt8) : List (List UInt8) :=
  splitLinesAfter [] bytes

def decodeLine? (line : List UInt8) : Option String :=
  (String.fromUTF8? ⟨line.toArray⟩).map fun text => String.ofList (trim text.toList)

end Reckoner.Text
