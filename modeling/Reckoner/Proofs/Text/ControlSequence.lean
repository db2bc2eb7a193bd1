import Mathlib.Tactic.IntervalCases
import Reckoner.Text.ControlSequence

/-! Control sequences in a text that is followed by another one. What is kept of the second text depends
on the first only through the passage in which it leaves off: outside strings white space is kept, so
it takes an open string to lose the end of a line. -/

namespace Reckoner.Text

/-- What the next character belongs to, and whether the last one was kept. -/
structure Place where
  passage : Passage
  keeping : Bool
  deriving DecidableEq

namespace Place

def start : Place := ⟨.plain, false⟩

def keeps (place : Place) (c : Char) : Bool :=
  place.passage.keeps c || (place.keeping && isKept c)

def next (place : Place) (c : Char) : Place :=
  if place.keeps c then ⟨if c.toNat < 128 then place.passage else .plain, true⟩
  else ⟨place.passage.after c, false⟩

def kept (place : Place) (text : List Char) : List Char :=
  keptFrom place.passage place.keeping text

theorem kept_cons (place : Place) (c : Char) (rest : List Char) :
    place.kept (c :: rest) = (if place.keeps c then [c] else []) ++ (place.next c).kept rest := by
  unfold kept next keeps
  rw [keptFrom]
  split
  · rfl
  · rfl

end Place

def Indented : List Char → Prop
  | [] => True
  | c :: rest => (c = '\n' → ∃ later, rest = ' ' :: later) ∧ Indented rest

theorem Indented.append {front back : List Char} (left : Indented front) (right : Indented back) :
    Indented (front ++ back) := by
  induction front with
  | nil => exact right
  | cons c rest ih =>
    refine ⟨?_, ih left.2⟩
    intro ends
    obtain ⟨later, same⟩ := left.1 ends
    rw [same]
    exact ⟨later ++ back, rfl⟩

theorem Indented.kept {text : List Char} (indented : Indented text) (place : Place) :
    Indented (place.kept text) := by
  induction text generalizing place with
  | nil => trivial
  | cons c rest ih =>
    rw [Place.kept_cons]
    split
    next here =>
      refine ⟨?_, ih indented.2 _⟩
      intro ends
      obtain ⟨later, rfl⟩ := indented.1 ends
      have blank : (place.next c).keeps ' ' = true := by
        rw [Place.next, if_pos here]
        exact Bool.or_true _
      have first := Place.kept_cons (place.next c) ' ' later
      rw [if_pos blank] at first
      exact ⟨_, first⟩
    next => exact ih indented.2 _

end Reckoner.Text
