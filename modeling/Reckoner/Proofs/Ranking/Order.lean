import Mathlib.Logic.Relation
import Reckoner.Calculator
import Reckoner.Proofs.Formula.Order

/-! Rankings that order all symbols alike give the same reverse Polish orders, and only they do. So
entries may change place, be dropped where they say nothing and be renumbered. -/

namespace Reckoner.Ranking

def SameOrder (ranking other : Ranking) : Prop :=
  ∀ a b, ranking.rank a ≤ ranking.rank b ↔ other.rank a ≤ other.rank b

/-- Changes of the entries of a ranking: neighbours for different symbols change places, an entry goes that
a later one overwrites or whose rank is that of no entry, and ranks are renumbered in their order. -/
inductive Revision : Ranking → Ranking → Prop
  | swap (front back : List (Char × Rank)) (entry next : Char × Rank) (distinct : entry.1 ≠ next.1) :
    Revision ⟨front ++ entry :: next :: back⟩ ⟨front ++ next :: entry :: back⟩
  | overwritten (front back : List (Char × Rank)) (c : Char) (r s : Rank) (later : (c, s) ∈ back) :
    Revision ⟨front ++ (c, r) :: back⟩ ⟨front ++ back⟩
  | zero (front back : List (Char × Rank)) (c : Char) (first : ∀ r, (c, r) ∉ front) :
    Revision ⟨front ++ (c, 0) :: back⟩ ⟨front ++ back⟩
  | renumber (entries : List (Char × Rank)) (f : Rank → Rank) (zero : f 0 = 0)
    (order : ∀ r ∈ 0 :: entries.map Prod.snd, ∀ s ∈ 0 :: entries.map Prod.snd, r ≤ s ↔ f r ≤ f s) :
    Revision ⟨entries⟩ ⟨entries.map (Prod.map id f)⟩

variable (front back entries : List (Char × Rank)) (c : Char)

theorem entry_append :
    entry? ⟨front ++ back⟩ c = (Ranking.entry? ⟨back⟩ c).or (Ranking.entry? ⟨front⟩ c) := by
  rw [Ranking.entry?, List.reverse_append, List.lookup_append]
  rfl

theorem entry_cons (entry : Char × Rank) :
    entry? ⟨entry :: back⟩ c =
      (Ranking.entry? ⟨back⟩ c).or (if c = entry.1 then some entry.2 else none) := by
  have alone : entry? ⟨[entry]⟩ c = if c = entry.1 then some entry.2 else none := by
    by_cases same : c = entry.1
    · rw [if_pos same, same]
      exact List.lookup_cons_self
    · simp [Ranking.entry?, same]
  rw [← alone]
  exact entry_append [entry] back c

theorem entry_eq_none_iff : entry? ⟨entries⟩ c = none ↔ ∀ r, (c, r) ∉ entries := by
  rw [Ranking.entry?, List.lookup_eq_none_iff]
  constructor
  · intro other r member
    simpa using other (c, r) (List.mem_reverse.2 member)
  · intro absent entry member
    rw [bne_iff_ne]
    rintro rfl
    exact absent entry.2 (List.mem_reverse.1 member)

theorem rank_of_absent (absent : ∀ r, (c, r) ∉ entries) : rank ⟨entries⟩ c = 0 := by
  rw [rank, (entry_eq_none_iff entries c).2 absent]
  rfl

theorem rank_of_last (r : Rank) (last : ∀ s, (c, s) ∉ back) :
    rank ⟨front ++ (c, r) :: back⟩ c = r := by
  rw [rank, entry_append, entry_cons, (entry_eq_none_iff back c).2 last]
  simp

theorem rank_mem : rank ⟨entries⟩ c ∈ 0 :: entries.map Prod.snd := by
  rw [rank]
  cases found : entry? ⟨entries⟩ c with
  | none => simp
  | some r =>
    obtain ⟨before, after, same, _⟩ := List.lookup_eq_some_iff.1 found
    have member : (c, r) ∈ entries := by
      rw [← List.mem_reverse, same]
      simp
    exact List.mem_cons_of_mem 0 (List.mem_map_of_mem member)

theorem entry_renumber (f : Rank → Rank) :
    entry? ⟨entries.map (Prod.map id f)⟩ c = (Ranking.entry? ⟨entries⟩ c).map f := by
  induction entries with
  | nil => rfl
  | cons entry rest ih =>
    rw [List.map_cons, entry_cons, entry_cons, ih]
    cases entry? ⟨rest⟩ c with
    | some r => rfl
    | none =>
      by_cases same : c = entry.1
      · simp [same]
      · simp [same]

theorem rank_renumber (f : Rank → Rank) (zero : f 0 = 0) :
    rank ⟨entries.map (Prod.map id f)⟩ c = f (rank ⟨entries⟩ c) := by
  rw [rank, rank, entry_renumber]
  cases entry? ⟨entries⟩ c with
  | none => exact zero.symm
  | some r => rfl

theorem sameOrder_of_rank_eq {ranking other : Ranking} (same : ∀ c, ranking.rank c = other.rank c) :
    SameOrder ranking other := by
  intro a b
  rw [same a, same b]

theorem Revision.sameOrder {ranking other : Ranking} (revision : Revision ranking other) :
    SameOrder ranking other := by
  cases revision with
  | swap front back entry next distinct =>
    apply sameOrder_of_rank_eq
    intro c
    rw [rank, rank, entry_append, entry_append, entry_cons, entry_cons, entry_cons, entry_cons,
      Option.or_assoc, Option.or_assoc]
    by_cases here : c = entry.1
    · simp [here, distinct]
    · simp [here]
  | overwritten front back c r s later =>
    apply sameOrder_of_rank_eq
    intro d
    rw [rank, rank, entry_append, entry_append, entry_cons]
    by_cases here : d = c
    · have listed : entry? ⟨back⟩ c ≠ none := fun none => (entry_eq_none_iff back c).1 none s later
      obtain ⟨t, found⟩ := Option.ne_none_iff_exists'.1 listed
      rw [here, found]
      rfl
    · simp [here]
  | zero front back c first =>
    apply sameOrder_of_rank_eq
    intro d
    rw [rank, rank, entry_append, entry_append, entry_cons]
    by_cases here : d = c
    · rw [here, (entry_eq_none_iff front c).2 first]
      cases entry? ⟨back⟩ c with
      | none => simp
      | some r => rfl
    · simp [here]
  | renumber entries f zero order =>
    intro a b
    rw [rank_renumber entries a f zero, rank_renumber entries b f zero]
    exact order _ (rank_mem entries a) _ (rank_mem entries b)

theorem sameOrder_of_revisions {ranking other : Ranking}
    (revisions : Relation.EqvGen Revision ranking other) : SameOrder ranking other := by
  induction revisions with
  | rel ranking other revision => exact revision.sameOrder
  | refl ranking => exact fun _ _ => Iff.rfl
  | symm ranking other _ ih => exact fun a b => (ih a b).symm
  | trans ranking middle other _ _ first second => exact fun a b => (first a b).trans (second a b)

end Reckoner.Ranking

namespace Reckoner.Rpn
open Ranking Token

variable (ranking other : Ranking)

theorem ofInfix_congr (tokens : List Token)
    (same : ∀ a b, symbol a ∈ tokens → symbol b ∈ tokens →
      (ranking.rank a ≤ ranking.rank b ↔ other.rank a ≤ other.rank b)) :
    ofInfix ranking tokens = ofInfix other tokens := by
  apply Yard.reorder_congr
  intro token member next nextMember waiting nextWaiting
  obtain ⟨a, rfl⟩ := (waits_iff token).1 waiting
  obtain ⟨b, rfl⟩ := (waits_iff next).1 nextWaiting
  exact same a b member nextMember

/-- Of two symbols alone, the first one leaves first unless the second binds more tightly. -/
theorem ofInfix_pair (a b : Char) :
    ofInfix ranking [symbol a, symbol b] =
      if ranking.rank b ≤ ranking.rank a then [symbol a, symbol b] else [symbol b, symbol a] := by
  rw [ofInfix, Yard.reorder_eq_departures]
  by_cases le : ranking.rank b ≤ ranking.rank a
  · simp [Yard.departures, Ranking.rankOf, symbol?, le]
  · simp [Yard.departures, Ranking.rankOf, symbol?, le]

theorem rank_le_of_ofInfix (a b : Char)
    (same : ofInfix ranking [symbol b, symbol a] = ofInfix other [symbol b, symbol a])
    (le : ranking.rank a ≤ ranking.rank b) : other.rank a ≤ other.rank b := by
  by_cases equal : a = b
  · subst equal
    exact Fin.le_refl _
  · by_contra otherLt
    rw [ofInfix_pair, ofInfix_pair, if_pos le, if_neg otherLt] at same
    have heads := (List.cons.inj same).1
    cases heads
    exact equal rfl

theorem sameOrder_of_ofInfix (same : ∀ tokens, ofInfix ranking tokens = ofInfix other tokens) :
    SameOrder ranking other := by
  intro a b
  constructor
  · exact rank_le_of_ofInfix ranking other a b (same _)
  · exact rank_le_of_ofInfix other ranking a b (same _).symm

end Reckoner.Rpn

namespace Reckoner.Ranking
open Rpn Token

/-- Ranks are those of the last entries, their order settles every reverse Polish order, that of the
symbols in a list the order of this list, and revisions leave all calculators as they are. -/
theorem ofInfix_eq_iff_sameOrder (entries others : List (Char × Rank)) :
    ((∀ c, (∀ r, (c, r) ∉ entries) → rank ⟨entries⟩ c = 0) ∧
      ∀ front c r back, entries = front ++ (c, r) :: back → (∀ s, (c, s) ∉ back) →
        rank ⟨entries⟩ c = r) ∧
    ((∀ tokens, ofInfix ⟨entries⟩ tokens = ofInfix ⟨others⟩ tokens) ↔
      SameOrder ⟨entries⟩ ⟨others⟩) ∧
    (∀ tokens, (∀ a b, symbol a ∈ tokens → symbol b ∈ tokens →
        (rank ⟨entries⟩ a ≤ rank ⟨entries⟩ b ↔ rank ⟨others⟩ a ≤ rank ⟨others⟩ b)) →
      ofInfix ⟨entries⟩ tokens = ofInfix ⟨others⟩ tokens) ∧
    (Relation.EqvGen Revision ⟨entries⟩ ⟨others⟩ →
      (∀ tokens, ofInfix ⟨entries⟩ tokens = ofInfix ⟨others⟩ tokens) ∧
      ∀ alphabet expression,
        Calculator.rpn ⟨alphabet, ⟨entries⟩⟩ expression =
          Calculator.rpn ⟨alphabet, ⟨others⟩⟩ expression ∧
        Calculator.evaluate ⟨alphabet, ⟨entries⟩⟩ expression =
          Calculator.evaluate ⟨alphabet, ⟨others⟩⟩ expression ∧
        Calculator.calculate ⟨alphabet, ⟨entries⟩⟩ expression =
          Calculator.calculate ⟨alphabet, ⟨others⟩⟩ expression) := by
  refine ⟨⟨rank_of_absent entries, ?_⟩, ⟨?_, ?_⟩, ?_, ?_⟩
  · intro front c r back same last
    rw [same]
    exact rank_of_last front back c r last
  · exact sameOrder_of_ofInfix ⟨entries⟩ ⟨others⟩
  · intro same tokens
    exact ofInfix_congr _ _ tokens fun a b _ _ => same a b
  · exact ofInfix_congr ⟨entries⟩ ⟨others⟩
  · intro revisions
    have same := sameOrder_of_revisions revisions
    have orders : ∀ tokens, ofInfix ⟨entries⟩ tokens = ofInfix ⟨others⟩ tokens := fun tokens =>
      ofInfix_congr _ _ tokens fun a b _ _ => same a b
    refine ⟨orders, ?_⟩
    intro alphabet expression
    have rpn : Calculator.rpn ⟨alphabet, ⟨entries⟩⟩ expression =
        Calculator.rpn ⟨alphabet, ⟨others⟩⟩ expression := orders (scan expression)
    have values : Calculator.evaluate ⟨alphabet, ⟨entries⟩⟩ expression =
        Calculator.evaluate ⟨alphabet, ⟨others⟩⟩ expression := by
      simp only [Calculator.evaluate, rpn]
    refine ⟨rpn, values, ?_⟩
    rw [Calculator.calculate, values]
    rfl

theorem ofInfix_product_and_sum :
    rank ⟨[('+', 7), ('×', 200), ('+', 3), ('^', 0)]⟩ '+' = 3 ∧
      rank ⟨[('+', 7), ('×', 200), ('+', 3), ('^', 0)]⟩ '-' = 0 ∧
      ofInfix ⟨[('+', 7), ('×', 200), ('+', 3), ('^', 0)]⟩ [symbol '+', symbol '×', symbol '^'] =
        ofInfix ⟨[('+', 1), ('×', 2)]⟩ [symbol '+', symbol '×', symbol '^'] ∧
      Calculator.calculate ⟨"+×^", ⟨[('+', 7), ('×', 200), ('+', 3), ('^', 0)]⟩⟩ "2+3×4" =
        Calculator.calculate ⟨"+×^", ⟨[('+', 1), ('×', 2)]⟩⟩ "2+3×4" ∧
      ofInfix ⟨[('+', 2), ('×', 1)]⟩ [symbol '×', symbol '^'] =
        ofInfix ⟨[('+', 1), ('×', 2)]⟩ [symbol '×', symbol '^'] := by
  obtain ⟨⟨absent, last⟩, _, _, revised⟩ :=
    ofInfix_eq_iff_sameOrder [('+', 7), ('×', 200), ('+', 3), ('^', 0)] [('+', 1), ('×', 2)]
  obtain ⟨_, _, partly, _⟩ := ofInfix_eq_iff_sameOrder [('+', 2), ('×', 1)] [('+', 1), ('×', 2)]
  have overwritten : Revision ⟨[('+', 7), ('×', 200), ('+', 3), ('^', 0)]⟩
      ⟨[('×', 200), ('+', 3), ('^', 0)]⟩ := .overwritten [] _ '+' 7 3 (by simp)
  have zero : Revision ⟨[('×', 200), ('+', 3), ('^', 0)]⟩ ⟨[('×', 200), ('+', 3)]⟩ :=
    .zero [('×', 200), ('+', 3)] [] '^' (by simp)
  have renumber : Revision ⟨[('×', 200), ('+', 3)]⟩ ⟨[('×', 2), ('+', 1)]⟩ :=
    .renumber [('×', 200), ('+', 3)] (fun r => if r = 200 then 2 else if r = 3 then 1 else r) rfl
      (by simp)
  have swap : Revision ⟨[('×', 2), ('+', 1)]⟩ ⟨[('+', 1), ('×', 2)]⟩ :=
    .swap [] [] ('×', 2) ('+', 1) (by decide)
  obtain ⟨orders, results⟩ := revised <| .trans _ _ _ (.rel _ _ overwritten) <|
    .trans _ _ _ (.rel _ _ zero) <| .trans _ _ _ (.rel _ _ renumber) (.rel _ _ swap)
  refine ⟨last [('+', 7), ('×', 200)] '+' 3 [('^', 0)] rfl (by simp), absent '-' (by simp),
    orders _, (results "+×^" "2+3×4").2.2, partly _ ?_⟩
  intro a b first second
  obtain rfl | rfl : a = '×' ∨ a = '^' := by simpa using first
  all_goals obtain rfl | rfl : b = '×' ∨ b = '^' := by simpa using second
  all_goals decide

end Reckoner.Ranking
