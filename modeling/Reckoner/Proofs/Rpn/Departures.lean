import Mathlib.Data.List.TakeWhile
import Reckoner.Rpn.Order

/-! The order of departure from a shunting yard, read off what waits on its siding and
what is still to arrive. The main statement cuts the arrivals at one that sends everything
before it away and is sent away by nothing after it: it departs last of all. -/

namespace Reckoner.Rpn.Yard
open scoped List

variable {α : Type} (waits : α → Bool) (rank : α → Rank)

/-- The departures still to come, in order, from a siding given from the top down. -/
def departures : List α → List α → List α
  | siding, [] => siding
  | siding, a :: rest =>
    if waits a then
      siding.takeWhile (fun top => rank a ≤ rank top) ++
        departures (a :: siding.dropWhile fun top => rank a ≤ rank top) rest
    else a :: departures siding rest

theorem departures_receive (yard : Yard α) (a : α) (rest : List α) :
    (receive waits rank yard a).departed.toList ++
        departures waits rank (receive waits rank yard a).siding.topDown rest =
      yard.departed.toList ++ departures waits rank yard.siding.topDown (a :: rest) := by
  by_cases waiting : waits a = true
  · simp [receive, departures, waiting, Stack.popWhile, Stack.push]
  · simp [receive, departures, waiting]

theorem clear_foldl_receive (yard : Yard α) (arrivals : List α) :
    (arrivals.foldl (receive waits rank) yard).clear =
      yard.departed.toList ++ departures waits rank yard.siding.topDown arrivals := by
  induction arrivals generalizing yard with
  | nil => rfl
  | cons a rest ih => rw [List.foldl_cons, ih, departures_receive]

theorem reorder_eq_departures (arrivals : List α) :
    reorder waits rank arrivals = departures waits rank [] arrivals :=
  clear_foldl_receive waits rank empty arrivals

theorem departures_perm (siding arrivals : List α) :
    departures waits rank siding arrivals ~ siding ++ arrivals := by
  induction arrivals generalizing siding with
  | nil => simp [departures]
  | cons a rest ih =>
    by_cases waiting : waits a = true
    · simp only [departures, waiting, if_true]
      have leaving := siding.takeWhile_append_dropWhile (p := fun top => rank a ≤ rank top)
      calc _ ~ siding.takeWhile (fun top => rank a ≤ rank top) ++
            (a :: siding.dropWhile (fun top => rank a ≤ rank top) ++ rest) :=
          (ih _).append_left _
        _ ~ a :: (siding.takeWhile (fun top => rank a ≤ rank top) ++
            (siding.dropWhile (fun top => rank a ≤ rank top) ++ rest)) := List.perm_middle
        _ = a :: (siding ++ rest) := by rw [← List.append_assoc, leaving]
        _ ~ siding ++ a :: rest := List.perm_middle.symm
    · simp only [departures, waiting, Bool.false_eq_true, if_false]
      exact ((ih siding).cons a).trans List.perm_middle.symm

theorem reorder_perm (arrivals : List α) : reorder waits rank arrivals ~ arrivals := by
  rw [reorder_eq_departures]
  exact departures_perm waits rank [] arrivals

theorem takeWhile_dropWhile_append_base (test : α → Bool) (siding base : List α)
    (stays : ∀ b ∈ base, test b = false) :
    (siding ++ base).takeWhile test = siding.takeWhile test ∧
      (siding ++ base).dropWhile test = siding.dropWhile test ++ base := by
  induction siding with
  | nil =>
    cases base with
    | nil => exact ⟨rfl, rfl⟩
    | cons b _ => simp [stays b List.mem_cons_self]
  | cons top below ih =>
    by_cases leaves : test top = true
    · simp [leaves, ih.1, ih.2]
    · simp [leaves]

theorem takeWhile_dropWhile_congr (test other : α → Bool) (siding : List α)
    (same : ∀ b ∈ siding, test b = other b) :
    siding.takeWhile test = siding.takeWhile other ∧ siding.dropWhile test = siding.dropWhile other := by
  induction siding with
  | nil => exact ⟨rfl, rfl⟩
  | cons top below ih =>
    have first := same top List.mem_cons_self
    obtain ⟨leaving, staying⟩ := ih fun b member => same b (List.mem_cons_of_mem top member)
    by_cases leaves : test top = true
    · simp [leaves, first ▸ leaves, leaving, staying]
    · simp [leaves, first ▸ leaves]

/-- Of the ranks no more counts than how those of any two that wait compare. -/
theorem departures_congr (other : α → Rank) (siding arrivals : List α)
    (waiting : ∀ b ∈ siding, waits b = true)
    (same : ∀ a ∈ siding ++ arrivals, ∀ b ∈ siding ++ arrivals, waits a = true → waits b = true →
      (rank a ≤ rank b ↔ other a ≤ other b)) :
    departures waits rank siding arrivals = departures waits other siding arrivals := by
  induction arrivals generalizing siding with
  | nil => rfl
  | cons a rest ih =>
    by_cases waits_a : waits a = true
    · have tests : ∀ b ∈ siding, decide (rank a ≤ rank b) = decide (other a ≤ other b) := by
        intro b member
        rw [decide_eq_decide]
        exact same a (by simp) b (by simp [member]) waits_a (waiting b member)
      obtain ⟨leaving, staying⟩ := takeWhile_dropWhile_congr _ _ siding tests
      have stays : siding.dropWhile (fun top => other a ≤ other top) ⊆ siding :=
        (List.dropWhile_sublist _).subset
      simp only [departures, waits_a, if_true]
      rw [leaving, staying, ih]
      · intro b member
        rcases List.mem_cons.mp member with rfl | below
        · exact waits_a
        · exact waiting b (stays below)
      · have known : a :: siding.dropWhile (fun top => other a ≤ other top) ++ rest ⊆
            siding ++ a :: rest := by
          intro b member
          rw [List.perm_middle.mem_iff]
          rcases List.mem_cons.mp member with rfl | beyond
          · exact List.mem_cons_self
          · rw [List.mem_cons, List.mem_append]
            exact Or.inr ((List.mem_append.mp beyond).imp_left fun below => stays below)
        exact fun b first c second => same b (known first) c (known second)
    · simp only [departures, waits_a, Bool.false_eq_true, if_false]
      have known : siding ++ rest ⊆ siding ++ a :: rest :=
        ((List.sublist_cons_self a rest).append_left siding).subset
      rw [ih siding waiting fun b first c second => same b (known first) c (known second)]

theorem reorder_congr (other : α → Rank) (arrivals : List α)
    (same : ∀ a ∈ arrivals, ∀ b ∈ arrivals, waits a = true → waits b = true →
      (rank a ≤ rank b ↔ other a ≤ other b)) :
    reorder waits rank arrivals = reorder waits other arrivals := by
  rw [reorder_eq_departures, reorder_eq_departures]
  exact departures_congr waits rank other [] arrivals (by simp) same

/-- What lies at the bottom of the siding and is outranked by all that arrive stays there. -/
theorem departures_append_base (siding base arrivals : List α)
    (outranked : ∀ a ∈ arrivals, waits a = true → ∀ b ∈ base, rank b < rank a) :
    departures waits rank (siding ++ base) arrivals =
      departures waits rank siding arrivals ++ base := by
  induction arrivals generalizing siding with
  | nil => rfl
  | cons a rest ih =>
    have later := fun other member => outranked other (List.mem_cons_of_mem a member)
    by_cases waiting : waits a = true
    · have stays : ∀ b ∈ base, decide (rank a ≤ rank b) = false := fun b member =>
        decide_eq_false (Fin.not_le.mpr (outranked a List.mem_cons_self waiting b member))
      obtain ⟨leaving, staying⟩ := takeWhile_dropWhile_append_base _ siding base stays
      simp only [departures, waiting, if_true]
      rw [leaving, staying, ← List.cons_append, ih _ later, List.append_assoc]
    · simp only [departures, waiting, Bool.false_eq_true, if_false]
      rw [ih siding later, List.cons_append]

/-- An arrival that outranks nothing on the siding and nothing before it clears the yard. -/
theorem departures_append_cons (siding front back : List α) (s : α) (waiting : waits s = true)
    (onSiding : ∀ b ∈ siding, rank s ≤ rank b)
    (before : ∀ a ∈ front, waits a = true → rank s ≤ rank a) :
    departures waits rank siding (front ++ s :: back) =
      departures waits rank siding front ++ departures waits rank [s] back := by
  induction front generalizing siding with
  | nil =>
    have all : ∀ b ∈ siding, decide (rank s ≤ rank b) = true := fun b member =>
      decide_eq_true (onSiding b member)
    simp only [List.nil_append, departures, waiting, if_true]
    rw [List.takeWhile_eq_self_iff.2 all, List.dropWhile_eq_nil_iff.2 all]
  | cons a rest ih =>
    have later := fun other member => before other (List.mem_cons_of_mem a member)
    by_cases waits_a : waits a = true
    · simp only [List.cons_append, departures, waits_a, if_true]
      rw [ih _ ?_ later, List.append_assoc]
      intro b member
      rcases List.mem_cons.mp member with same | below
      · exact same ▸ before a List.mem_cons_self waits_a
      · exact onSiding b ((List.dropWhile_sublist _).subset below)
    · simp only [List.cons_append, departures, waits_a, Bool.false_eq_true, if_false]
      rw [ih siding onSiding later]

/-- An arrival of the least rank, the last of those that have it, departs at the very end; what came
before it departs in its own order, and then what came after it. -/
theorem reorder_cut (front back : List α) (s : α) (waiting : waits s = true)
    (before : ∀ a ∈ front, waits a = true → rank s ≤ rank a)
    (after : ∀ a ∈ back, waits a = true → rank s < rank a) :
    reorder waits rank (front ++ s :: back) =
      reorder waits rank front ++ (reorder waits rank back ++ [s]) := by
  have alone := departures_append_base waits rank [] [s] back fun a member waits_a b only =>
    List.mem_singleton.mp only ▸ after a member waits_a
  simp only [reorder_eq_departures]
  rw [departures_append_cons waits rank [] front back s waiting (by simp) before]
  exact congrArg _ alone

end Reckoner.Rpn.Yard
