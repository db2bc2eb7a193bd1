import Reckoner.Listed

/-!
Stacks with checked removal.
-/

namespace Reckoner

structure Stack (α : Type) where
  topDown : List α
  deriving DecidableEq, Repr

namespace Stack

inductive Underflow
  | pop
  | peek
  deriving DecidableEq, Repr

def Underflow.message : Underflow → String
  | .pop => "You cannot pop from an empty stack"
  | .peek => "You cannot peek from an empty stack"

variable {α : Type}

def empty : Stack α := ⟨[]⟩

def push (a : α) (stack : Stack α) : Stack α := ⟨a :: stack.topDown⟩

def pop : Stack α → Except Underflow (α × Stack α)
  | ⟨[]⟩ => .error .pop
  | ⟨a :: below⟩ => .ok (a, ⟨below⟩)

def peek : Stack α → Except Underflow α
  | ⟨[]⟩ => .error .peek
  | ⟨a :: _⟩ => .ok a

def popIf (test : α → Bool) : Stack α → Option (α × Stack α)
  | ⟨[]⟩ => none
  | ⟨a :: below⟩ => if test a then some (a, ⟨below⟩) else none

/-- The elements removed by `popIf` until it fails, in the order of removal, and the stack left. -/
def popWhile (test : α → Bool) (stack : Stack α) : List α × Stack α :=
  (stack.topDown.takeWhile test, ⟨stack.topDown.dropWhile test⟩)

theorem popWhile_eq_popIf (test : α → Bool) (stack : Stack α) :
    stack.popWhile test = match stack.popIf test with
      | none => ([], stack)
      | some (a, below) => ((a :: (below.popWhile test).1), (below.popWhile test).2) := by
  obtain ⟨elements⟩ := stack
  cases elements with
  | nil => rfl
  | cons a below => by_cases h : test a <;> simp [popWhile, popIf, h]

def size (stack : Stack α) : Nat := stack.topDown.length

def isEmpty (stack : Stack α) : Bool := stack.topDown.isEmpty

def toList (stack : Stack α) : List α := stack.topDown.reverse

def text [Listed α] (stack : Stack α) : String :=
  "Stack" ++ Listed.bracket stack.toList

inductive Operation (α : Type)
  | clear
  | push (a : α)
  | pop
  | peek
  | popIf (test : α → Bool)
  | size
  | isEmpty
  | isNonempty

inductive Reply (α : Type)
  | done
  | element (result : Except Underflow α)
  | removed (element : Option α)
  | count (n : Nat)
  | truth (b : Bool)

/-- The answer to an operation and the stack after it; one that fails leaves the stack as it was. -/
def perform (stack : Stack α) : Operation α → Reply α × Stack α
  | .clear => (.done, empty)
  | .push a => (.done, stack.push a)
  | .pop =>
    match stack.pop with
    | .error fault => (.element (.error fault), stack)
    | .ok (a, below) => (.element (.ok a), below)
  | .peek => (.element stack.peek, stack)
  | .popIf test =>
    match stack.popIf test with
    | none => (.removed none, stack)
    | some (a, below) => (.removed (some a), below)
  | .size => (.count stack.size, stack)
  | .isEmpty => (.truth stack.isEmpty, stack)
  | .isNonempty => (.truth (!stack.isEmpty), stack)

end Stack
end Reckoner
