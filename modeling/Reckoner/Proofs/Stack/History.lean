import Mathlib.Data.List.DropRight
import Mathlib.Data.List.Induction
import Reckoner.Stack

/-! Stacks by their history. With pushes and removals matched like brackets, a stack holds the elements
of the unmatched pushes since it was last cleared, and a removal gives back the element of the last of
them. -/

namespace Reckoner.Stack

variable {α : Type}

inductive Mark (α : Type)
  | clear
  | push (a : α)
  | remove (a : α)
  | keep

namespace Mark

def isClear : Mark α → Bool
  | .clear => true
  | _ => false

def isPush : Mark α → Bool
  | .push _ => true
  | _ => false

def isRemove : Mark α → Bool
  | .remove _ => true
  | _ => false

/-- The mark of an operation with the answer to it. A removal that is refused removes nothing. -/
def ofReply : Operation α → Reply α → Mark α
  | .clear, _ => .clear
  | .push a, _ => .push a
  | .pop, .element (.ok a) => .remove a
  | .popIf _, .removed (some a) => .remove a
  | _, _ => .keep

def Changes : Mark α → Stack α → Stack α → Prop
  | .clear, _, next => next = .empty
  | .push a, stack, next => next = stack.push a
  | .remove a, stack, next => stack = next.push a
  | .keep, stack, next => next = stack

end Mark

theorem perform_changes (stack : Stack α) (operation : Operation α) :
    (Mark.ofReply operation (stack.perform operation).1).Changes stack (stack.perform operation).2 := by
  obtain ⟨elements⟩ := stack
  cases operation with
  | clear => rfl
  | push a => rfl
  | pop =>
    cases elements with
    | nil => rfl
    | cons a below => rfl
  | peek => rfl
  | popIf test =>
    cases elements with
    | nil => rfl
    | cons a below =>
      by_cases passes : test a = true
      · simp [perform, popIf, passes, Mark.ofReply, Mark.Changes, push]
      · simp [perform, popIf, passes, Mark.ofReply, Mark.Changes]
  | size => rfl
  | isEmpty => rfl
  | isNonempty => rfl

def after (stack : Stack α) (operations : List (Operation α)) : Stack α :=
  operations.foldl (fun current operation => (current.perform operation).2) stack

def history : Stack α → List (Operation α) → List (Mark α)
  | _, [] => []
  | stack, operation :: rest =>
    .ofReply operation (stack.perform operation).1 :: history (stack.perform operation).2 rest

/-- Marks in which every push is closed by a removal, and every removal closes a push, like brackets. -/
inductive Balanced : List (Mark α) → Prop
  | nil : Balanced []
  | keep {later : List (Mark α)} (rest : Balanced later) : Balanced (.keep :: later)
  | pair (a b : α) {inner later : List (Mark α)} (inside : Balanced inner) (rest : Balanced later) :
    Balanced (.push a :: inner ++ .remove b :: later)

/-- Whether a push is still open after the marks that follow it: the stack has not been cleared, and no
removal closes the push. -/
def StaysOpen (later : List (Mark α)) : Prop :=
  .clear ∉ later ∧ ¬ ∃ inner b rest, later = inner ++ .remove b :: rest ∧ Balanced inner

def outlasts : Nat → List (Mark α) → Bool
  | _, [] => true
  | _, .clear :: _ => false
  | above, .push _ :: later => outlasts (above + 1) later
  | 0, .remove _ :: _ => false
  | above + 1, .remove _ :: later => outlasts above later
  | above, .keep :: later => outlasts above later

theorem outlasts_of_clear (above : Nat) (marks : List (Mark α)) (clear : .clear ∈ marks) :
    outlasts above marks = false := by
  induction marks generalizing above with
  | nil => cases clear
  | cons mark later ih =>
    have inside : mark ≠ .clear → .clear ∈ later := fun other =>
      (List.mem_cons.mp clear).resolve_left other.symm
    cases mark with
    | clear => rfl
    | push a => exact ih (above + 1) (inside (by simp))
    | remove a =>
      cases above with
      | zero => rfl
      | succ above => exact ih above (inside (by simp))
    | keep => exact ih above (inside (by simp))

theorem Balanced.outlasts_append {inner : List (Mark α)} (balanced : Balanced inner) (above : Nat)
    (later : List (Mark α)) : outlasts above (inner ++ later) = outlasts above later := by
  induction balanced generalizing above later with
  | nil => rfl
  | keep _ ih => exact ih above later
  | pair a b _ _ insideIH restIH =>
    simp only [List.cons_append, List.append_assoc, outlasts]
    rw [insideIH, outlasts, restIH]

/-- What does not outlast some marks is cleared away, or the first removals that are not closed inside
reach down to it. -/
theorem exists_removal_of_not_outlasts (above : Nat) (marks : List (Mark α))
    (gone : outlasts above marks = false) :
    .clear ∈ marks ∨ ∃ inner b later, marks = inner ++ .remove b :: later ∧ Balanced inner ∧
      ∀ fewer, above = fewer + 1 → outlasts fewer later = false := by
  induction length : marks.length using Nat.strong_induction_on generalizing above marks with
  | _ n ih =>
    subst length
    match marks with
    | [] => cases gone
    | .clear :: later => exact Or.inl List.mem_cons_self
    | .remove b :: later =>
      refine Or.inr ⟨[], b, later, rfl, .nil, ?_⟩
      rintro fewer rfl
      exact gone
    | .keep :: later =>
      rcases ih later.length (Nat.lt_succ_self _) above later gone rfl with
        clear | ⟨inner, b, rest, rfl, balanced, lower⟩
      · exact Or.inl (List.mem_cons_of_mem _ clear)
      · exact Or.inr ⟨.keep :: inner, b, rest, rfl, .keep balanced, lower⟩
    | .push a :: later =>
      rcases ih later.length (Nat.lt_succ_self _) (above + 1) later gone rfl with
        clear | ⟨inner, b, rest, rfl, balanced, lower⟩
      · exact Or.inl (List.mem_cons_of_mem _ clear)
      · have shorter : rest.length < (Mark.push a :: (inner ++ .remove b :: rest)).length := by
          simp only [List.length_cons, List.length_append]
          omega
        rcases ih rest.length shorter above rest (lower above rfl) rfl with
          clear | ⟨outer, c, beyond, rfl, balancedOuter, lower⟩
        · exact Or.inl (by simp [clear])
        · exact Or.inr ⟨.push a :: inner ++ .remove b :: outer, c, beyond, by simp,
            .pair a b balanced balancedOuter, lower⟩

theorem outlasts_zero_iff (later : List (Mark α)) : outlasts 0 later = true ↔ StaysOpen later := by
  constructor
  · intro stays
    refine ⟨fun clear => ?_, ?_⟩
    · exact absurd (stays.symm.trans (outlasts_of_clear 0 later clear)) (by decide)
    · rintro ⟨inner, b, rest, rfl, balanced⟩
      rw [balanced.outlasts_append] at stays
      cases stays
  · intro stays
    by_contra gone
    rw [Bool.not_eq_true] at gone
    rcases exists_removal_of_not_outlasts 0 later gone with clear | ⟨inner, b, rest, same, balanced, _⟩
    · exact stays.1 clear
    · exact stays.2 ⟨inner, b, rest, same, balanced⟩

instance (later : List (Mark α)) : Decidable (StaysOpen later) :=
  decidable_of_iff _ (outlasts_zero_iff later)

def openPushes : List (Mark α) → List α
  | [] => []
  | .push a :: later => if StaysOpen later then a :: openPushes later else openPushes later
  | _ :: later => openPushes later

def sinceClear (marks : List (Mark α)) : List (Mark α) :=
  marks.rtakeWhile fun mark => !mark.isClear

def remaining (stays : Nat → Bool) : List α → List α
  | [] => []
  | a :: below =>
    (if stays 0 then [a] else []) ++ remaining (fun depth => stays (depth + 1)) below

theorem remaining_of_none (elements : List α) : remaining (fun _ => false) elements = [] := by
  induction elements with
  | nil => rfl
  | cons a below ih => exact ih

/-- A stack holds the open pushes on top of what they leave of the elements before them. -/
theorem topDown_after (stack : Stack α) (operations : List (Operation α)) :
    (after stack operations).topDown =
      (openPushes (history stack operations)).reverse ++
        remaining (fun depth => outlasts depth (history stack operations)) stack.topDown := by
  induction operations generalizing stack with
  | nil =>
    have all : ∀ elements : List α, remaining (fun _ => true) elements = elements := by
      intro elements
      induction elements with
      | nil => rfl
      | cons a below ih => exact congrArg (List.cons a) ih
    exact (all stack.topDown).symm
  | cons operation rest ih =>
    have changes := perform_changes stack operation
    rw [after, List.foldl_cons, ← after, ih, history]
    generalize Mark.ofReply operation (stack.perform operation).1 = mark at changes ⊢
    generalize (stack.perform operation).2 = next at changes ⊢
    cases mark with
    | clear =>
      cases changes
      exact congrArg _ (remaining_of_none stack.topDown).symm
    | push a =>
      cases changes
      have top : (stack.push a).topDown = a :: stack.topDown := rfl
      by_cases stays : StaysOpen (history (stack.push a) rest)
      · have outlasts_a := (outlasts_zero_iff _).2 stays
        simp [openPushes, stays, top, remaining, outlasts_a, outlasts]
      · have gone := Bool.not_eq_true _ ▸ mt (outlasts_zero_iff _).1 stays
        simp [openPushes, stays, top, remaining, gone, outlasts]
    | remove a =>
      cases changes
      rfl
    | keep =>
      cases changes
      rfl

theorem toList_after_empty (operations : List (Operation α)) :
    (after .empty operations).toList = openPushes (history .empty operations) := by
  rw [toList, topDown_after, empty, remaining, List.append_nil, List.reverse_reverse]

theorem after_concat (stack : Stack α) (operations : List (Operation α)) (operation : Operation α) :
    after stack (operations ++ [operation]) = ((after stack operations).perform operation).2 := by
  rw [after, List.foldl_append]
  rfl

theorem history_concat (stack : Stack α) (operations : List (Operation α)) (operation : Operation α) :
    history stack (operations ++ [operation]) = history stack operations ++
      [.ofReply operation ((after stack operations).perform operation).1] := by
  induction operations generalizing stack with
  | nil => rfl
  | cons first rest ih => exact congrArg (List.cons _) (ih _)

theorem size_after (operations : List (Operation α)) :
    (after .empty operations).size +
        (sinceClear (history .empty operations)).countP Mark.isRemove =
      (sinceClear (history .empty operations)).countP Mark.isPush := by
  induction operations using List.reverseRecOn with
  | nil => rfl
  | append_singleton operations operation ih =>
    have changes := perform_changes (after .empty operations) operation
    rw [after_concat, history_concat, sinceClear, List.rtakeWhile_concat, ← sinceClear]
    generalize Mark.ofReply operation ((after .empty operations).perform operation).1 = mark
      at changes ⊢
    cases mark with
    | clear =>
      rw [changes]
      rfl
    | push a =>
      rw [changes]
      simp [Mark.isClear, Mark.isPush, Mark.isRemove, push, size] at ih ⊢
      omega
    | remove a =>
      rw [changes] at ih
      simp [Mark.isClear, Mark.isPush, Mark.isRemove, push, size] at ih ⊢
      omega
    | keep =>
      rw [changes]
      simpa [Mark.isClear, Mark.isPush, Mark.isRemove] using ih

theorem exists_last_open (marks : List (Mark α)) (front : List α) (a : α)
    (opened : openPushes marks = front ++ [a]) :
    ∃ before inner, marks = before ++ .push a :: inner ∧ StaysOpen inner ∧ openPushes inner = [] := by
  induction marks generalizing front with
  | nil => simp [openPushes] at opened
  | cons mark later ih =>
    have further : ∀ rest, openPushes later = rest ++ [a] → ∃ before inner,
        mark :: later = before ++ .push a :: inner ∧ StaysOpen inner ∧ openPushes inner = [] := by
      intro rest same
      obtain ⟨before, inner, rfl, found⟩ := ih rest same
      exact ⟨mark :: before, inner, rfl, found⟩
    cases mark with
    | clear => exact further front opened
    | remove b => exact further front opened
    | keep => exact further front opened
    | push b =>
      rw [openPushes] at opened
      split at opened
      next stays =>
        cases front with
        | nil =>
          obtain ⟨rfl, none⟩ := List.cons.inj opened
          exact ⟨[], later, rfl, stays, none⟩
        | cons c front => exact further front (List.cons.inj opened).2
      next => exact further front opened

theorem openPushes_eq_nil_of_append (front back : List (Mark α))
    (none : openPushes (front ++ back) = []) : openPushes back = [] := by
  induction front with
  | nil => exact none
  | cons mark front ih =>
    cases mark with
    | push a =>
      rw [List.cons_append, openPushes] at none
      split at none
      · cases none
      · exact ih none
    | clear | remove | keep => exact ih none

theorem balanced_of_none_open (marks : List (Mark α)) (stays : outlasts 0 marks = true)
    (none : openPushes marks = []) : Balanced marks := by
  induction length : marks.length using Nat.strong_induction_on generalizing marks with
  | _ n ih =>
    subst length
    match marks with
    | [] => exact .nil
    | .clear :: later => cases stays
    | .remove b :: later => cases stays
    | .keep :: later => exact .keep (ih later.length (Nat.lt_succ_self _) later stays none rfl)
    | .push a :: later =>
      have closed : ¬ StaysOpen later := by
        intro opened
        rw [openPushes, if_pos opened] at none
        cases none
      have gone := Bool.not_eq_true _ ▸ mt (outlasts_zero_iff later).1 closed
      rcases exists_removal_of_not_outlasts 0 later gone with
        clear | ⟨inner, b, rest, rfl, balanced, _⟩
      · exact absurd (stays.symm.trans (outlasts_of_clear 1 later clear)) (by decide)
      · have shorter : rest.length < (Mark.push a :: (inner ++ .remove b :: rest)).length := by
          simp only [List.length_cons, List.length_append]
          omega
        have restStays : outlasts 0 rest = true := by
          rwa [outlasts, balanced.outlasts_append] at stays
        have restNone := openPushes_eq_nil_of_append (.push a :: inner ++ [.remove b]) rest
          (by simpa using none)
        exact .pair a b balanced (ih rest.length shorter rest restStays restNone rfl)

theorem topDown_of_remove (stack : Stack α) (operation : Operation α) (a : α)
    (removes : Mark.ofReply operation (stack.perform operation).1 = .remove a) :
    stack.topDown = a :: (stack.perform operation).2.topDown := by
  have changes := perform_changes stack operation
  rw [removes] at changes
  exact congrArg topDown changes

theorem exists_fault_of_pop_iff (stack : Stack α) :
    (∃ fault, (stack.perform .pop).1 = .element (.error fault)) ↔ stack.size = 0 := by
  obtain ⟨elements⟩ := stack
  cases elements with
  | nil => simp [perform, pop, size]
  | cons a below => simp [perform, pop, size]

theorem exists_fault_of_peek_iff (stack : Stack α) :
    (∃ fault, (stack.perform .peek).1 = .element (.error fault)) ↔ stack.size = 0 := by
  obtain ⟨elements⟩ := stack
  cases elements with
  | nil => simp [perform, peek, size]
  | cons a below => simp [perform, peek, size]

theorem perform_pop_of_fault (stack : Stack α) (fault : Underflow)
    (fails : (stack.perform .pop).1 = .element (.error fault)) : (stack.perform .pop).2 = stack := by
  have changes := perform_changes stack .pop
  rwa [fails] at changes

theorem perform_popIf_eq_some_iff (stack : Stack α) (test : α → Bool) (a : α) :
    (stack.perform (.popIf test)).1 = .removed (some a) ↔
      (stack.perform .peek).1 = .element (.ok a) ∧ test a = true := by
  obtain ⟨elements⟩ := stack
  cases elements with
  | nil => simp [perform, peek, popIf]
  | cons b below =>
    by_cases passes : test b = true
    · simp only [perform, peek, popIf, passes, if_true, Reply.removed.injEq, Option.some.injEq,
        Reply.element.injEq, Except.ok.injEq]
      exact ⟨fun same => ⟨same, same ▸ passes⟩, And.left⟩
    · simp only [perform, peek, popIf, passes, Bool.false_eq_true, if_false, Reply.removed.injEq,
        reduceCtorEq, Reply.element.injEq, Except.ok.injEq, false_iff, not_and]
      exact fun same => same ▸ passes

theorem perform_popIf_of_refused (stack : Stack α) (test : α → Bool)
    (refused : ∀ a, (stack.perform .peek).1 = .element (.ok a) → test a = false) :
    (stack.perform (.popIf test)).2 = stack := by
  obtain ⟨elements⟩ := stack
  cases elements with
  | nil => rfl
  | cons b below => simp [perform, popIf, refused b rfl]

/-- What the history of a stack tells about it and about its next use. -/
structure Follows (marks : List (Mark α)) (stack : Stack α) : Prop where
  contents : stack.toList = openPushes marks
  removal : ∀ operation a, Mark.ofReply operation (stack.perform operation).1 = .remove a →
    ∃ before inner, marks = before ++ .push a :: inner ∧ Balanced inner ∧ StaysOpen inner ∧
      openPushes inner = []
  size : stack.size + (sinceClear marks).countP Mark.isRemove = (sinceClear marks).countP Mark.isPush
  pop_fails : (∃ fault, (stack.perform .pop).1 = .element (.error fault)) ↔
    (sinceClear marks).countP Mark.isPush = (sinceClear marks).countP Mark.isRemove
  peek_fails : (∃ fault, (stack.perform .peek).1 = .element (.error fault)) ↔
    (sinceClear marks).countP Mark.isPush = (sinceClear marks).countP Mark.isRemove
  peek_keeps : (stack.perform .peek).2 = stack
  failed_pop_keeps : ∀ fault, (stack.perform .pop).1 = .element (.error fault) →
    (stack.perform .pop).2 = stack
  popIf_removes : ∀ test a, (stack.perform (.popIf test)).1 = .removed (some a) ↔
    (stack.perform .peek).1 = .element (.ok a) ∧ test a = true
  refused_popIf_keeps : ∀ test : α → Bool,
    (∀ a, (stack.perform .peek).1 = .element (.ok a) → test a = false) →
      (stack.perform (.popIf test)).2 = stack

/-- Every run of a stack that is new at first is told by its history. -/
theorem follows_history (operations : List (Operation α)) :
    Follows (history .empty operations) (after .empty operations) := by
  have contents := toList_after_empty operations
  have size := size_after operations
  have vacant : (after .empty operations).size = 0 ↔
      (sinceClear (history .empty operations)).countP Mark.isPush =
        (sinceClear (history .empty operations)).countP Mark.isRemove := by omega
  refine ⟨contents, ?_, size, (exists_fault_of_pop_iff _).trans vacant,
    (exists_fault_of_peek_iff _).trans vacant, rfl, perform_pop_of_fault _,
    perform_popIf_eq_some_iff _, perform_popIf_of_refused _⟩
  intro operation a removes
  have top := topDown_of_remove _ operation a removes
  rw [toList, top, List.reverse_cons] at contents
  obtain ⟨before, inner, same, stays, none⟩ := exists_last_open _ _ a contents.symm
  exact ⟨before, inner, same, balanced_of_none_open inner ((outlasts_zero_iff inner).2 stays) none,
    stays, none⟩

example : openPushes (history .empty [.pop, .push 1, .clear, .push 2, .push 3, .popIf (· < 3), .pop,
    .push 4, .peek]) = [2, 4] := by decide

end Reckoner.Stack
