import Mathlib.Data.Fintype.Card
import Reckoner.Proofs.Ranking.Order
import Reckoner.Proofs.Rpn.Precedence

/-! The siding of a shunting yard between two arrivals. Its ranks grow from the bottom to the top, so
it is never longer than there are ranks, and an arrival parts it into a top that leaves and a bottom
that it outranks. -/

namespace Reckoner.Rpn
open scoped List

namespace Yard

variable {α : Type} (waits : α → Bool) (rank : α → Rank)

/-- What holds of a yard once some arrivals are there, in the order of their arrival. -/
structure Orderly (arrived : List α) (yard : Yard α) : Prop where
  grows : yard.siding.toList.Pairwise fun below above => rank below < rank above
  inOrder : yard.siding.toList <+ arrived
  waiting : ∀ a ∈ yard.siding.toList, waits a = true
  complete : yard.departed.toList ++ yard.siding.toList ~ arrived

/-- How an arrival that waits parts the siding: the highest elements of no lower rank leave from the top
down, the others are outranked and stay. -/
structure Parts (yard next : Yard α) (a : α) (staying leaving : List α) : Prop where
  before : yard.siding.toList = staying ++ leaving
  outranked : ∀ b ∈ staying, rank b < rank a
  reaching : ∀ b ∈ leaving, rank a ≤ rank b
  siding : next.siding.toList = staying ++ [a]
  departed : next.departed.toList = yard.departed.toList ++ leaving.reverse

variable {waits rank} {arrived : List α} {yard : Yard α}

theorem Orderly.exists_parts (orderly : Orderly waits rank arrived yard) (a : α)
    (waits_a : waits a = true) :
    ∃ staying leaving, Parts rank yard (receive waits rank yard a) a staying leaving := by
  have grows := orderly.grows
  rw [Stack.toList, List.pairwise_reverse] at grows
  refine ⟨(yard.siding.topDown.dropWhile fun top => rank a ≤ rank top).reverse,
    (yard.siding.topDown.takeWhile fun top => rank a ≤ rank top).reverse, ?_, ?_, ?_, ?_, ?_⟩
  · rw [← List.reverse_append, List.takeWhile_append_dropWhile, Stack.toList]
  · intro b member
    exact rank_lt_of_mem_dropWhile rank _ (rank a) grows b (List.mem_reverse.1 member)
  · intro b member
    simpa using List.mem_takeWhile_imp (List.mem_reverse.1 member)
  · simp [receive, waits_a, Stack.popWhile, Stack.push, Stack.toList]
  · simp [receive, waits_a, Stack.popWhile]

theorem receive_of_passing (a : α) (passes : waits a = false) :
    receive waits rank yard a = ⟨yard.departed.push a, yard.siding⟩ := by
  rw [receive, passes]
  rfl

theorem Orderly.receive (orderly : Orderly waits rank arrived yard) (a : α) :
    Orderly waits rank (arrived ++ [a]) (receive waits rank yard a) := by
  by_cases waits_a : waits a = true
  · obtain ⟨staying, leaving, parts⟩ := orderly.exists_parts a waits_a
    obtain ⟨grows, inOrder, waiting, complete⟩ := orderly
    rw [parts.before] at grows inOrder waiting complete
    have stays : staying <+ staying ++ leaving := List.sublist_append_left staying leaving
    constructor
    · rw [parts.siding, List.pairwise_append]
      exact ⟨grows.sublist stays, List.pairwise_singleton _ a, by simpa using parts.outranked⟩
    · rw [parts.siding]
      exact (stays.trans inOrder).append_right [a]
    · rw [parts.siding, List.forall_mem_append]
      exact ⟨fun b member => waiting b (stays.subset member), by simpa using waits_a⟩
    · rw [parts.siding, parts.departed, ← List.append_assoc]
      apply List.Perm.append_right
      calc yard.departed.toList ++ leaving.reverse ++ staying
          ~ yard.departed.toList ++ (staying ++ leaving) := by
            rw [List.append_assoc]
            exact ((leaving.reverse_perm.append_right staying).trans List.perm_append_comm).append_left _
        _ ~ arrived := complete
  · rw [receive_of_passing a (Bool.not_eq_true _ ▸ waits_a)]
    refine ⟨orderly.grows, orderly.inOrder.trans (List.sublist_append_left arrived [a]),
      orderly.waiting, ?_⟩
    rw [Array.toList_push, List.append_assoc]
    exact List.perm_middle.trans
      ((orderly.complete.cons a).trans (List.perm_append_singleton a arrived).symm)

theorem orderly_foldl_receive (arrivals : List α) :
    Orderly waits rank arrivals (arrivals.foldl (Yard.receive waits rank) empty) := by
  induction arrivals using List.reverseRecOn with
  | nil => exact ⟨.nil, .refl _, by simp [empty, Stack.empty, Stack.toList], .refl _⟩
  | append_singleton arrivals a ih =>
    rw [List.foldl_append]
    exact ih.receive a

theorem Orderly.size_le (orderly : Orderly waits rank arrived yard) :
    yard.siding.size ≤ ((arrived.filter waits).map rank).toFinset.card := by
  have distinct : (yard.siding.toList.map rank).Nodup := by
    rw [List.Nodup, List.pairwise_map]
    exact orderly.grows.imp fun lt => ne_of_lt lt
  calc yard.siding.size = (yard.siding.toList.map rank).toFinset.card := by
        rw [List.toFinset_card_of_nodup distinct, List.length_map, Stack.toList, List.length_reverse,
          Stack.size]
    _ ≤ ((arrived.filter waits).map rank).toFinset.card := by
        apply Finset.card_le_card
        intro r member
        simp only [List.mem_toFinset, List.mem_map, List.mem_filter] at member ⊢
        obtain ⟨a, onSiding, rfl⟩ := member
        exact ⟨a, ⟨orderly.inOrder.subset onSiding, orderly.waiting a onSiding⟩, rfl⟩

end Yard

def yardAfter (ranking : Ranking) (read : List Token) : Yard Token :=
  read.foldl (Yard.receive (fun token => !token.isNumber) ranking.rankOf) .empty

def symbolRanks (ranking : Ranking) (tokens : List Token) : List Rank :=
  (tokens.filterMap Token.symbol?).map ranking.rank

theorem map_rankOf_filter (ranking : Ranking) (tokens : List Token) :
    (tokens.filter fun token => !token.isNumber).map ranking.rankOf = symbolRanks ranking tokens := by
  induction tokens with
  | nil => rfl
  | cons token rest ih =>
    cases token with
    | number text => exact ih
    | symbol c => exact congrArg (List.cons (ranking.rank c)) ih

theorem card_symbolRanks_standard (tokens : List Token) :
    (symbolRanks .standard tokens).toFinset.card ≤ 3 := by
  have three : (0 :: Ranking.standard.entries.map Prod.snd).toFinset.card = 3 := by decide
  rw [← three]
  apply Finset.card_le_card
  intro r member
  rw [List.mem_toFinset, symbolRanks, List.mem_map] at member
  obtain ⟨c, _, rfl⟩ := member
  exact List.mem_toFinset.2 (Ranking.rank_mem _ c)

/-- Whatever the tokens, the yard is in order after each of them, and what is still to come departs from
that yard. The symbols on the siding have different ranks, so they are few, and a symbol to come parts
them in two. -/
theorem siding_between_tokens (ranking : Ranking) (read : List Token) :
    (yardAfter ranking read).siding.toList.Pairwise
        (fun below above => ranking.rankOf below < ranking.rankOf above) ∧
      (yardAfter ranking read).siding.toList <+ read ∧
      (∀ token ∈ (yardAfter ranking read).siding.toList, ∃ c, token = .symbol c) ∧
      (yardAfter ranking read).departed.toList ++ (yardAfter ranking read).siding.toList ~ read ∧
      (yardAfter ranking read).siding.size ≤ (symbolRanks ranking read).toFinset.card ∧
      (symbolRanks ranking read).toFinset.card ≤ 256 ∧
      (yardAfter .standard read).siding.size ≤ 3 ∧
      (∀ c, ∃ staying leaving, Yard.Parts ranking.rankOf (yardAfter ranking read)
        (yardAfter ranking (read ++ [.symbol c])) (.symbol c) staying leaving) ∧
      ∀ rest, ofInfix ranking (read ++ rest) =
        (rest.foldl (Yard.receive (fun token => !token.isNumber) ranking.rankOf)
          (yardAfter ranking read)).clear := by
  have orderlyAfter : ∀ other : Ranking, Yard.Orderly (fun token => !token.isNumber) other.rankOf read
      (yardAfter other read) := fun _ => Yard.orderly_foldl_receive read
  have orderly := orderlyAfter ranking
  have size := orderly.size_le
  have standard := (orderlyAfter .standard).size_le
  rw [map_rankOf_filter] at size standard
  have ranks : (symbolRanks ranking read).toFinset.card ≤ 256 :=
    (Finset.card_le_univ _).trans_eq (Fintype.card_fin 256)
  refine ⟨orderly.grows, orderly.inOrder, ?_, orderly.complete, size, ranks,
    standard.trans (card_symbolRanks_standard read), ?_, ?_⟩
  · intro token member
    exact (waits_iff token).1 (orderly.waiting token member)
  · intro c
    rw [yardAfter, yardAfter, List.foldl_append]
    exact orderly.exists_parts (.symbol c) rfl
  · intro rest
    rw [ofInfix, Yard.reorder, List.foldl_append]
    rfl

example : (yardAfter .standard [.symbol '+', .number "1", .symbol '×', .symbol '^',
    .symbol '-']).siding.toList = [.symbol '^', .symbol '-'] := by decide

end Reckoner.Rpn
