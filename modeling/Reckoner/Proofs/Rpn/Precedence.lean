import Mathlib.Data.List.FinRange
import Reckoner.Proofs.Rpn.Departures

/-! Which of two arrivals departs first. Numbers depart as they come. A symbol departs at the first
later symbol of no higher rank, whatever else waits above it, because the ranks on a siding grow from
the bottom to the top. -/

namespace Reckoner.Rpn

namespace Yard

theorem rank_lt_of_mem_dropWhile {α : Type} (rank : α → Rank) (siding : List α) (bound : Rank)
    (grows : siding.Pairwise fun top below => rank below < rank top) :
    ∀ b ∈ siding.dropWhile (fun top => bound ≤ rank top), rank b < bound := by
  induction siding with
  | nil => simp
  | cons top below ih =>
    obtain ⟨above, grows⟩ := List.pairwise_cons.1 grows
    by_cases leaves : bound ≤ rank top
    · simpa [leaves] using ih grows
    · have stays := lt_of_not_ge leaves
      simp only [List.dropWhile_cons, leaves, decide_false, Bool.false_eq_true, if_false,
        List.forall_mem_cons]
      exact ⟨stays, fun b member => (above b member).trans stays⟩

section Moments

variable {α : Type} [LinearOrder α] (waits : α → Bool) (rank : α → Rank)

/-- Whether an arrival has departed once a later one is there: it does not wait, or one that waits and
does not outrank it has come in the meantime. -/
def GoneBy (a b : α) : Prop :=
  waits a = true → ∃ c, a < c ∧ c ≤ b ∧ waits c = true ∧ rank c ≤ rank a

/-- The order of departure: an arrival departs before the later ones by which it is gone, and after
those by which it is not, for they pass it or lie above it on the siding. -/
def DepartsBefore (a b : α) : Prop :=
  (a < b ∧ GoneBy waits rank a b) ∨ (b < a ∧ ¬ GoneBy waits rank b a)

structure Arriving (later : List α) : Prop where
  ordered : later.Pairwise (· < ·)
  complete : ∀ c, c ∈ later ∨ ∀ b ∈ later, c < b

/-- What waits on a siding, from the top down, while arrivals are still to come: the last to have come
lies on top, and each is outranked by all that have come to wait after it. -/
structure Holds (siding later : List α) : Prop where
  ordered : siding.Pairwise (· > ·)
  waiting : ∀ a ∈ siding, waits a = true
  earlier : ∀ a ∈ siding, ∀ b ∈ later, a < b
  outranked : ∀ a ∈ siding, ∀ c, a < c → (∀ b ∈ later, c < b) → waits c = true → rank a < rank c

variable {waits rank} {a : α} {siding later : List α}

theorem DepartsBefore.asymm {b : α} (before : DepartsBefore waits rank a b) :
    ¬ DepartsBefore waits rank b a := by
  intro after
  rcases before with ⟨lt, gone⟩ | ⟨lt, stays⟩
  · rcases after with ⟨gt, _⟩ | ⟨_, stays⟩
    · exact lt_asymm lt gt
    · exact stays gone
  · rcases after with ⟨_, gone⟩ | ⟨gt, _⟩
    · exact stays gone
    · exact lt_asymm lt gt

theorem Arriving.tail (arriving : Arriving (a :: later)) : Arriving later where
  ordered := arriving.ordered.tail
  complete c := by
    rcases arriving.complete c with member | before
    · rcases List.mem_cons.mp member with rfl | inside
      · exact Or.inr fun b member => List.rel_of_pairwise_cons arriving.ordered member
      · exact Or.inl inside
    · exact Or.inr fun b member => before b (List.mem_cons_of_mem a member)

theorem Arriving.eq_or_before {c : α} (arriving : Arriving (a :: later))
    (before : ∀ b ∈ later, c < b) : c = a ∨ ∀ b ∈ a :: later, c < b := by
  rcases arriving.complete c with member | before_all
  · rcases List.mem_cons.mp member with same | inside
    · exact Or.inl same
    · exact absurd (before c inside) (lt_irrefl c)
  · exact Or.inr before_all

namespace Holds

theorem rank_grows (holds : Holds waits rank siding later) :
    siding.Pairwise fun top below => rank below < rank top :=
  holds.ordered.imp_of_mem fun {top below} onTop under lt =>
    holds.outranked below under top lt (holds.earlier top onTop) (holds.waiting top onTop)

theorem not_goneBy (holds : Holds waits rank siding later) {b : α} (before : ∀ d ∈ later, b < d) :
    ∀ c ∈ siding, ¬ GoneBy waits rank c b := by
  intro c member gone
  obtain ⟨d, after, le, waiting, low⟩ := gone (holds.waiting c member)
  have outranked := holds.outranked c member d after (fun e inside => le.trans_lt (before e inside))
  exact absurd low (not_le_of_gt (outranked waiting))

theorem pairwise_departsBefore (holds : Holds waits rank siding later) :
    siding.Pairwise (DepartsBefore waits rank) :=
  holds.ordered.imp_of_mem fun {top below} onTop under lt =>
    Or.inr ⟨lt, holds.not_goneBy (holds.earlier top onTop) below under⟩

theorem pass (holds : Holds waits rank siding (a :: later)) (arriving : Arriving (a :: later))
    (passes : waits a = false) : Holds waits rank siding later where
  ordered := holds.ordered
  waiting := holds.waiting
  earlier b member c inside := holds.earlier b member c (List.mem_cons_of_mem a inside)
  outranked b member c after before waiting := by
    rcases arriving.eq_or_before before with rfl | before_all
    · exact absurd (passes.symm.trans waiting) Bool.false_ne_true
    · exact holds.outranked b member c after before_all waiting

theorem wait (holds : Holds waits rank siding (a :: later)) (arriving : Arriving (a :: later))
    (waits_a : waits a = true) :
    Holds waits rank (a :: siding.dropWhile fun top => rank a ≤ rank top) later := by
  have stays := List.dropWhile_sublist (fun top => decide (rank a ≤ rank top)) (l := siding)
  have before_a : ∀ b ∈ siding, b < a := fun b member => holds.earlier b member a List.mem_cons_self
  constructor
  · exact List.pairwise_cons.2 ⟨fun b member => before_a b (stays.subset member),
      holds.ordered.sublist stays⟩
  · exact List.forall_mem_cons.2 ⟨waits_a, fun b member => holds.waiting b (stays.subset member)⟩
  · refine List.forall_mem_cons.2 ⟨fun b => List.rel_of_pairwise_cons arriving.ordered, ?_⟩
    intro b member c inside
    exact holds.earlier b (stays.subset member) c (List.mem_cons_of_mem a inside)
  · refine List.forall_mem_cons.2 ⟨?_, ?_⟩
    · intro c after before _
      rcases arriving.eq_or_before before with rfl | before_all
      · exact absurd after (lt_irrefl c)
      · exact absurd after (lt_asymm (before_all a List.mem_cons_self))
    · intro b member c after before waiting
      rcases arriving.eq_or_before before with rfl | before_all
      · exact rank_lt_of_mem_dropWhile rank siding _ holds.rank_grows b member
      · exact holds.outranked b (stays.subset member) c after before_all waiting

end Holds

/-- The invariant of the siding carries the order of departure through all arrivals: what leaves at an
arrival is gone by it and by all later ones, and what stays is not. -/
theorem pairwise_departures (siding later : List α) (holds : Holds waits rank siding later)
    (arriving : Arriving later) :
    (departures waits rank siding later).Pairwise (DepartsBefore waits rank) := by
  induction later generalizing siding with
  | nil => exact holds.pairwise_departsBefore
  | cons a later ih =>
    have after_a : ∀ b ∈ later, a < b := fun b => List.rel_of_pairwise_cons arriving.ordered
    by_cases waits_a : waits a = true
    · simp only [departures, waits_a, if_true]
      have parts := holds.pairwise_departsBefore
      rw [← siding.takeWhile_append_dropWhile (p := fun top => rank a ≤ rank top),
        List.pairwise_append] at parts
      obtain ⟨leaving, _, across⟩ := parts
      refine List.pairwise_append.2 ⟨leaving, ih _ (holds.wait arriving waits_a) arriving.tail, ?_⟩
      intro b leaves c departs
      have member := (List.takeWhile_sublist _).subset leaves
      have low : rank a ≤ rank b := by simpa using List.mem_takeWhile_imp leaves
      have before_a := holds.earlier b member a List.mem_cons_self
      rcases List.mem_append.mp ((departures_perm waits rank _ later).subset departs) with on | comes
      · rcases List.mem_cons.mp on with rfl | stays
        · exact Or.inl ⟨before_a, fun _ => ⟨c, before_a, le_rfl, waits_a, low⟩⟩
        · exact across b leaves c stays
      · exact Or.inl ⟨before_a.trans (after_a c comes),
          fun _ => ⟨a, before_a, (after_a c comes).le, waits_a, low⟩⟩
    · have passes := Bool.not_eq_true _ ▸ waits_a
      simp only [departures, passes, Bool.false_eq_true, if_false]
      have rest := holds.pass arriving passes
      refine List.pairwise_cons.2 ⟨?_, ih siding rest arriving.tail⟩
      intro c departs
      rcases List.mem_append.mp ((departures_perm waits rank siding later).subset departs) with on | comes
      · exact Or.inr ⟨holds.earlier c on a List.mem_cons_self, rest.not_goneBy after_a c on⟩
      · exact Or.inl ⟨after_a c comes, fun waiting => absurd waiting waits_a⟩

theorem pairwise_reorder (arrivals : List α) (arriving : Arriving arrivals) :
    (reorder waits rank arrivals).Pairwise (DepartsBefore waits rank) := by
  rw [reorder_eq_departures]
  exact pairwise_departures [] arrivals ⟨.nil, by simp, by simp, by simp⟩ arriving

end Moments

theorem map_departures {α β : Type} (f : β → α) (waits : α → Bool) (rank : α → Rank)
    (siding arrivals : List β) :
    (departures (waits ∘ f) (rank ∘ f) siding arrivals).map f =
      departures waits rank (siding.map f) (arrivals.map f) := by
  induction arrivals generalizing siding with
  | nil => rfl
  | cons a rest ih =>
    by_cases waiting : waits (f a) = true
    · simp only [departures, List.map_cons, List.map_append, Function.comp_apply, waiting, if_true, ih,
        List.takeWhile_map, List.dropWhile_map]
      rfl
    · simp only [departures, List.map_cons, Function.comp_apply, waiting, Bool.false_eq_true, if_false,
        ih]

theorem map_reorder {α β : Type} (f : β → α) (waits : α → Bool) (rank : α → Rank)
    (arrivals : List β) :
    (reorder (waits ∘ f) (rank ∘ f) arrivals).map f = reorder waits rank (arrivals.map f) := by
  rw [reorder_eq_departures, reorder_eq_departures, map_departures, List.map_nil]

end Yard

theorem idxOf_lt_idxOf_iff {α : Type} [DecidableEq α] {before : α → α → Prop} {order : List α}
    (sorted : order.Pairwise before) (asymm : ∀ {a b}, before a b → ¬ before b a) {a b : α}
    (left : a ∈ order) (right : b ∈ order) (distinct : a ≠ b) :
    order.idxOf a < order.idxOf b ↔ before a b := by
  have related : ∀ {c d}, c ∈ order → d ∈ order → order.idxOf c < order.idxOf d → before c d := by
    intro c d inside inside' lt
    have pair := List.pairwise_iff_getElem.1 sorted _ _ (List.idxOf_lt_length_of_mem inside)
      (List.idxOf_lt_length_of_mem inside') lt
    rwa [List.getElem_idxOf, List.getElem_idxOf] at pair
  constructor
  · exact related left right
  · intro first
    by_contra not_lt
    have differs : order.idxOf a ≠ order.idxOf b := fun same =>
      distinct ((List.idxOf_inj left).1 same)
    exact asymm first (related right left (by omega))

def departingPositions (ranking : Ranking) (tokens : List Token) : List (Fin tokens.length) :=
  Yard.reorder (fun i => !(tokens.get i).isNumber) (fun i => ranking.rankOf (tokens.get i))
    (List.finRange tokens.length)

variable (ranking : Ranking) (tokens : List Token)

theorem departingPositions_perm :
    (departingPositions ranking tokens).Perm (List.finRange tokens.length) :=
  Yard.reorder_perm _ _ _

theorem map_departingPositions :
    (departingPositions ranking tokens).map tokens.get = ofInfix ranking tokens := by
  have named := Yard.map_reorder tokens.get (fun token => !token.isNumber) ranking.rankOf
    (List.finRange tokens.length)
  rwa [List.map_get_finRange] at named

def Precedes (i j : Fin tokens.length) : Prop :=
  (departingPositions ranking tokens).idxOf i < (departingPositions ranking tokens).idxOf j

theorem precedes_iff (i j : Fin tokens.length) (lt : i < j) :
    Precedes ranking tokens i j ↔
      ((tokens.get i).isNumber = false → ∃ k, i < k ∧ k ≤ j ∧ (tokens.get k).isNumber = false ∧
        ranking.rankOf (tokens.get k) ≤ ranking.rankOf (tokens.get i)) := by
  have all : ∀ k, k ∈ departingPositions ranking tokens := fun k =>
    (departingPositions_perm ranking tokens).mem_iff.2 (List.mem_finRange k)
  have arriving : Yard.Arriving (List.finRange tokens.length) :=
    ⟨List.pairwise_lt_finRange _, fun k => Or.inl (List.mem_finRange k)⟩
  have sorted : (departingPositions ranking tokens).Pairwise _ := Yard.pairwise_reorder _ arriving
  rw [Precedes, idxOf_lt_idxOf_iff sorted Yard.DepartsBefore.asymm (all i) (all j) lt.ne,
    Yard.DepartsBefore]
  simp [lt, lt.not_gt, Yard.GoneBy]

theorem precedes_of_number (i j : Fin tokens.length) (lt : i < j) (text : String)
    (number : tokens.get i = .number text) : Precedes ranking tokens i j := by
  rw [precedes_iff ranking tokens i j lt, number]
  intro symbol
  cases symbol

theorem precedes_of_symbol_iff (i j : Fin tokens.length) (lt : i < j) (c : Char)
    (symbol : tokens.get i = .symbol c) :
    Precedes ranking tokens i j ↔
      ∃ k d, i < k ∧ k ≤ j ∧ tokens.get k = .symbol d ∧ ranking.rank d ≤ ranking.rank c := by
  rw [precedes_iff ranking tokens i j lt, symbol, Token.isNumber_symbol, forall_prop_of_true rfl]
  constructor
  · intro found
    obtain ⟨k, after, le, waits, low⟩ := found
    cases here : tokens.get k with
    | number text =>
      rw [here] at waits
      cases waits
    | symbol d =>
      rw [here] at low
      exact ⟨k, d, after, le, here, low⟩
  · intro found
    obtain ⟨k, d, after, le, here, low⟩ := found
    exact ⟨k, after, le, here ▸ rfl, here ▸ low⟩

/-- The whole order of departure, whatever the tokens. Each position departs once. A number departs
before all that come after it, and a symbol before those that come no earlier than the first later
symbol of no higher rank. So symbols of equal rank keep their order. -/
theorem ofInfix_positions :
    (departingPositions ranking tokens).Perm (List.finRange tokens.length) ∧
      (departingPositions ranking tokens).map tokens.get = ofInfix ranking tokens ∧
      (∀ i j, i < j → ∀ text, tokens.get i = .number text → Precedes ranking tokens i j) ∧
      (∀ i j, i < j → ∀ c, tokens.get i = .symbol c →
        (Precedes ranking tokens i j ↔
          ∃ k d, i < k ∧ k ≤ j ∧ tokens.get k = .symbol d ∧ ranking.rank d ≤ ranking.rank c)) ∧
      ∀ i j, i < j → ∀ c d, tokens.get i = .symbol c → tokens.get j = .symbol d →
        ranking.rank c = ranking.rank d → Precedes ranking tokens i j := by
  refine ⟨departingPositions_perm ranking tokens, map_departingPositions ranking tokens,
    precedes_of_number ranking tokens, precedes_of_symbol_iff ranking tokens, ?_⟩
  intro i j lt c d first second same
  rw [precedes_of_symbol_iff ranking tokens i j lt c first]
  exact ⟨j, d, lt, le_rfl, second, same.ge⟩

theorem ofInfix_positions_of_stray_symbols :
    ofInfix .standard [.symbol '+', .number "1", .symbol '×', .symbol '^', .symbol '-', .number "2",
        .symbol '+'] =
      [.number "1", .symbol '×', .symbol '+', .number "2", .symbol '-', .symbol '+', .symbol '^'] ∧
    Precedes .standard [.symbol '+', .number "1", .symbol '×', .symbol '^', .symbol '-', .number "2",
        .symbol '+'] 1 4 ∧
    Precedes .standard [.symbol '+', .number "1", .symbol '×', .symbol '^', .symbol '-', .number "2",
        .symbol '+'] 0 3 ∧
    Precedes .standard [.symbol '+', .number "1", .symbol '×', .symbol '^', .symbol '-', .number "2",
        .symbol '+'] 4 6 := by
  obtain ⟨_, _, numbers, symbols, equals⟩ := ofInfix_positions .standard [.symbol '+', .number "1",
    .symbol '×', .symbol '^', .symbol '-', .number "2", .symbol '+']
  refine ⟨by decide, numbers 1 4 (by decide) "1" rfl, ?_, ?_⟩
  · exact (symbols 0 3 (by decide) '+' rfl).2 ⟨3, '^', by decide, by decide, rfl, by decide⟩
  · exact equals 4 6 (by decide) '-' '+' rfl rfl (by decide)

end Reckoner.Rpn
