import Reckoner.Operator
import Reckoner.Number.Reading
import Reckoner.Proofs.Infix.Alternation
import Reckoner.Ranking

/-! Infix lists cut at the rightmost symbol of least rank, and the values that cutting gives
them, without any stack. -/

namespace Reckoner.Infix

variable (ranking : Ranking)

/-- The rightmost symbol of least rank, between the tokens on its left and those on its right. -/
def cut : List Token → Option (List Token × Char × List Token)
  | [] => none
  | .number text :: rest =>
    (cut rest).map fun (left, symbol, right) => (.number text :: left, symbol, right)
  | .symbol c :: rest =>
    match cut rest with
    | none => some ([], c, rest)
    | some (left, symbol, right) =>
      if ranking.rank symbol ≤ ranking.rank c then some (.symbol c :: left, symbol, right)
      else some ([], c, rest)

/-- No symbol on the left has a lower rank than the symbol between, and all on the right have a
higher one. -/
structure IsCut (left : List Token) (symbol : Char) (right : List Token) : Prop where
  left_le : ∀ c, Token.symbol c ∈ left → ranking.rank symbol ≤ ranking.rank c
  right_lt : ∀ c, Token.symbol c ∈ right → ranking.rank symbol < ranking.rank c

theorem cut_eq_none_iff (tokens : List Token) :
    cut ranking tokens = none ↔ ∀ c, Token.symbol c ∉ tokens := by
  induction tokens with
  | nil => simp [cut]
  | cons token rest ih =>
    cases token with
    | number text => simp [cut, ih]
    | symbol c =>
      have present : ¬ ∀ other, Token.symbol other ∉ Token.symbol c :: rest := fun absent =>
        absent c List.mem_cons_self
      simp only [cut, present, iff_false]
      split
      · simp
      · split <;> simp

theorem cut_sound (tokens left right : List Token) (symbol : Char)
    (found : cut ranking tokens = some (left, symbol, right)) :
    tokens = left ++ .symbol symbol :: right ∧ IsCut ranking left symbol right := by
  induction tokens generalizing left symbol right with
  | nil => cases found
  | cons token rest ih =>
    cases token with
    | number text =>
      obtain ⟨⟨front, s, back⟩, inner, same⟩ := Option.map_eq_some_iff.1 found
      obtain ⟨rfl, rfl, rfl⟩ : _ ∧ _ ∧ _ := by simpa using same
      obtain ⟨rfl, isCut⟩ := ih _ _ _ inner
      refine ⟨rfl, ⟨fun c member => isCut.left_le c ?_, isCut.right_lt⟩⟩
      simpa using member
    | symbol c =>
      rw [cut] at found
      split at found
      next absent =>
        obtain ⟨rfl, rfl, rfl⟩ : _ ∧ _ ∧ _ := by simpa using found
        have none_right := (cut_eq_none_iff ranking rest).1 absent
        exact ⟨rfl, ⟨by simp, fun c member => absurd member (none_right c)⟩⟩
      next front s back inner =>
        obtain ⟨rfl, isCut⟩ := ih _ _ _ inner
        split at found
        next le =>
          obtain ⟨rfl, rfl, rfl⟩ : _ ∧ _ ∧ _ := by simpa using found
          refine ⟨rfl, ⟨fun other member => ?_, isCut.right_lt⟩⟩
          rcases List.mem_cons.mp member with same | inside
          · cases same
            exact le
          · exact isCut.left_le other inside
        next lt =>
          obtain ⟨rfl, rfl, rfl⟩ : _ ∧ _ ∧ _ := by simpa using found
          refine ⟨rfl, ⟨by simp, fun other member => ?_⟩⟩
          have below : ranking.rank c < ranking.rank s := Fin.not_le.1 lt
          rcases List.mem_append.mp member with inside | inside
          · exact Fin.lt_of_lt_of_le below (isCut.left_le other inside)
          · rcases List.mem_cons.mp inside with same | beyond
            · cases same
              exact below
            · exact Fin.lt_trans below (isCut.right_lt other beyond)

theorem cut_complete (left right : List Token) (symbol : Char)
    (isCut : IsCut ranking left symbol right) :
    cut ranking (left ++ .symbol symbol :: right) = some (left, symbol, right) := by
  induction left with
  | nil =>
    rw [List.nil_append, cut]
    split
    next => rfl
    next front s back inner =>
      have member : Token.symbol s ∈ right := by
        rw [(cut_sound ranking right front back s inner).1]
        simp
      rw [if_neg (Fin.not_le.2 (isCut.right_lt s member))]
  | cons token left ih =>
    have inner : IsCut ranking left symbol right :=
      ⟨fun c member => isCut.left_le c (List.mem_cons_of_mem token member), isCut.right_lt⟩
    cases token with
    | number text => rw [List.cons_append, cut, ih inner, Option.map_some]
    | symbol c => simp only [List.cons_append, cut, ih inner, isCut.left_le c List.mem_cons_self, if_true]

theorem length_of_cut (tokens left right : List Token) (symbol : Char)
    (found : cut ranking tokens = some (left, symbol, right)) :
    left.length < tokens.length ∧ right.length < tokens.length := by
  rw [(cut_sound ranking tokens left right symbol found).1]
  simp only [List.length_append, List.length_cons]
  omega

/-- The value of an infix list: a single number stands for itself, and every other list for the
result of its rightmost symbol of least rank on the values of the two sides. -/
def value? (tokens : List Token) : Option Float :=
  match _ : cut ranking tokens with
  | some (left, symbol, right) =>
    match value? left, value? right with
    | some x, some y => some ((Operator.ofSymbol symbol).apply x y)
    | _, _ => none
  | none =>
    match tokens with
    | [.number text] => Numeral.read? text
    | _ => none
termination_by tokens.length
decreasing_by
  · exact (length_of_cut ranking tokens left right symbol ‹_›).1
  · exact (length_of_cut ranking tokens left right symbol ‹_›).2

theorem value?_single (text : String) : value? ranking [.number text] = Numeral.read? text := by
  rw [value?]
  rfl

theorem value?_cut (left right : List Token) (symbol : Char)
    (isCut : IsCut ranking left symbol right) :
    value? ranking (left ++ .symbol symbol :: right) =
      match value? ranking left, value? ranking right with
      | some x, some y => some ((Operator.ofSymbol symbol).apply x y)
      | _, _ => none := by
  rw [value?]
  split
  next front s back found =>
    obtain ⟨rfl, rfl, rfl⟩ : _ ∧ _ ∧ _ := by
      simpa [cut_complete ranking left right symbol isCut] using found.symm
    rfl
  next absent =>
    rw [cut_complete ranking left right symbol isCut] at absent
    cases absent

end Reckoner.Infix
