/-!
Texts as a terminal shows them: without control characters other than white space, and without the
sequences that an escape character opens. The characters of a sequence decide where it ends; one
that never ends takes the rest of its text along.
-/

namespace Reckoner.Text

def isLayout (c : Char) : Bool :=
  c == '\t' || c == '\n' || c == '\x0c' || c == '\r'

def isKept (c : Char) : Bool :=
  isLayout c || (' ' ≤ c && c != '\x7f')

/-- What the next character of a text belongs to: no sequence, an escape or a control sequence, a device
control string, a string that the byte 9C ends, or a system command, which the bell ends. -/
inductive Passage
  | plain
  | escape
  | escapeTail
  | control
  | device
  | deviceParameters
  | deviceTail
  | payload
  | command
  deriving DecidableEq, Repr

namespace Passage

def opened (c : Char) : Passage :=
  if c < '0' then .escapeTail
  else if c = '[' then .control
  else if c = ']' then .command
  else if c = 'P' then .device
  else if c = 'X' ∨ c = '^' ∨ c = '_' then .payload
  else .plain

def deviceAfter (last c : Char) : Passage :=
  if c < '0' then .deviceTail else if c ≤ last then .deviceParameters else .payload

/-- What follows a character that is not kept. An escape character opens a sequence anywhere, and
the characters 18 and 1A cancel one. -/
def after (passage : Passage) (c : Char) : Passage :=
  let isFrom (first : Char) : Bool := first ≤ c && c ≤ '~'
  if c = '\x1b' then .escape
  else if c = '\x18' ∨ c = '\x1a' then .plain
  else
    match passage with
    | .plain => .plain
    | .escape => if isFrom ' ' then opened c else .escape
    | .escapeTail => if isFrom '0' then .plain else .escapeTail
    | .control => if isFrom '@' then .plain else .control
    | .device => if isFrom ' ' then deviceAfter '?' c else .device
    | .deviceParameters => if isFrom ' ' then deviceAfter ';' c else .deviceParameters
    | .deviceTail => if isFrom '0' then .payload else .deviceTail
    | .payload => if (String.utf8EncodeChar c).contains 0x9c then .plain else .payload
    | .command => if c = '\x07' then .plain else .command

def keeps (passage : Passage) (c : Char) : Bool :=
  match passage with
  | .plain => isKept c
  | .escape | .escapeTail | .control => isLayout c
  | _ => false

end Passage

/-- The characters kept of a text that starts in `passage`. Once one is kept, so are those after it
up to the next control, where an open sequence goes on unless a character outside ASCII has closed
it. -/
def keptFrom (passage : Passage) (keeping : Bool) : List Char → List Char
  | [] => []
  | c :: rest =>
    if passage.keeps c || (keeping && isKept c) then
      c :: keptFrom (if c.toNat < 128 then passage else .plain) true rest
    else keptFrom (passage.after c) false rest

def withoutControls (text : String) : String :=
  String.ofList (keptFrom .plain false text.toList)

end Reckoner.Text
