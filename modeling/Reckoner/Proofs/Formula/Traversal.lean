import Reckoner.Proofs.Infix.Cut

/-! Formulas as trees with numerals at the leaves and symbols at the inner nodes, and their two
traversals. Post-order can be undone, and in-order can be undone among the formulas in which no
symbol outranks the symbols below it. -/

namespace Reckoner

inductive Formula
  | numeral (text : String)
  | operation (left : Formula) (symbol : Char) (right : Formula)
  deriving DecidableEq, Repr

namespace Formula
open Infix

def inorder : Formula → List Token
  | .numeral text => [.number text]
  | .operation left symbol right => left.inorder ++ .symbol symbol :: right.inorder

def postorder : Formula → List Token
  | .numeral text => [.number text]
  | .operation left symbol right => left.postorder ++ (right.postorder ++ [.symbol symbol])

def symbols : Formula → List Char
  | .numeral _ => []
  | .operation left symbol right => left.symbols ++ symbol :: right.symbols

/-- Every symbol ranks at most as high as those on its left, and lower than those on its right. -/
def Ranked (ranking : Ranking) : Formula → Prop
  | .numeral _ => True
  | .operation left symbol right =>
    (∀ c ∈ left.symbols, ranking.rank symbol ≤ ranking.rank c) ∧
      (∀ c ∈ right.symbols, ranking.rank symbol < ranking.rank c) ∧
      left.Ranked ranking ∧ right.Ranked ranking

theorem symbol_mem_inorder (formula : Formula) (c : Char) :
    Token.symbol c ∈ formula.inorder ↔ c ∈ formula.symbols := by
  induction formula with
  | numeral text => simp [inorder, symbols]
  | operation left symbol right leftIH rightIH => simp [inorder, symbols, leftIH, rightIH]

theorem inorder_ne_nil (formula : Formula) : formula.inorder ≠ [] := by
  cases formula with
  | numeral text => simp [inorder]
  | operation left symbol right => simp [inorder]

theorem postorder_perm (formula : Formula) : formula.postorder.Perm formula.inorder := by
  induction formula with
  | numeral text => exact .refl _
  | operation left symbol right leftIH rightIH =>
    apply leftIH.append
    exact (List.perm_append_singleton _ _).trans (rightIH.cons _)

theorem isCut_operation (ranking : Ranking) (left right : Formula) (symbol : Char) :
    IsCut ranking left.inorder symbol right.inorder ↔
      (∀ c ∈ left.symbols, ranking.rank symbol ≤ ranking.rank c) ∧
        ∀ c ∈ right.symbols, ranking.rank symbol < ranking.rank c := by
  simp only [← symbol_mem_inorder]
  exact ⟨fun isCut => ⟨isCut.left_le, isCut.right_lt⟩, fun ⟨le, lt⟩ => ⟨le, lt⟩⟩

theorem Ranked.isCut {ranking : Ranking} {left right : Formula} {symbol : Char}
    (ranked : (operation left symbol right).Ranked ranking) :
    IsCut ranking left.inorder symbol right.inorder :=
  (isCut_operation ranking left right symbol).2 ⟨ranked.1, ranked.2.1⟩

theorem Ranked.rank_root_le {ranking : Ranking} {left right : Formula} {symbol : Char}
    (ranked : (operation left symbol right).Ranked ranking) :
    ∀ c ∈ (operation left symbol right).symbols, ranking.rank symbol ≤ ranking.rank c := by
  obtain ⟨le, lt, _, _⟩ := ranked
  intro c member
  rcases List.mem_append.mp member with onLeft | others
  · exact le c onLeft
  · rcases List.mem_cons.mp others with rfl | onRight
    · exact Fin.le_refl _
    · exact Fin.le_of_lt (lt c onRight)

theorem exists_ranked (ranking : Ranking) (tokens : List Token) (alternating : Alternating tokens) :
    ∃ formula : Formula, formula.inorder = tokens ∧ formula.Ranked ranking := by
  induction length : tokens.length using Nat.strong_induction_on generalizing tokens with
  | _ n ih =>
    cases found : cut ranking tokens with
    | none =>
      obtain ⟨text, rfl⟩ := alternating.eq_single ((cut_eq_none_iff ranking tokens).1 found)
      exact ⟨.numeral text, rfl, trivial⟩
    | some parts =>
      obtain ⟨front, symbol, back⟩ := parts
      obtain ⟨shorter, shorter'⟩ := length_of_cut ranking tokens front back symbol found
      obtain ⟨rfl, isCut⟩ := cut_sound ranking tokens front back symbol found
      obtain ⟨leftAlternating, rightAlternating⟩ := (alternating_append_iff _ _ symbol).1 alternating
      obtain ⟨left, rfl, leftRanked⟩ := ih _ (length ▸ shorter) front leftAlternating rfl
      obtain ⟨right, rfl, rightRanked⟩ := ih _ (length ▸ shorter') back rightAlternating rfl
      obtain ⟨le, lt⟩ := (isCut_operation ranking left right symbol).1 isCut
      exact ⟨.operation left symbol right, rfl, le, lt, leftRanked, rightRanked⟩

theorem inorder_operation_ne (left right : Formula) (symbol : Char) (text : String) :
    (operation left symbol right).inorder ≠ [.number text] := by
  intro same
  have member : Token.symbol symbol ∈ (operation left symbol right).inorder := by simp [inorder]
  rw [same, List.mem_singleton] at member
  cases member

theorem eq_of_inorder_eq (ranking : Ranking) (formula other : Formula)
    (ranked : formula.Ranked ranking) (otherRanked : other.Ranked ranking)
    (same : formula.inorder = other.inorder) : formula = other := by
  induction formula generalizing other with
  | numeral text =>
    cases other with
    | numeral otherText =>
      cases same
      rfl
    | operation left symbol right =>
      exact absurd same.symm (inorder_operation_ne left right symbol text)
  | operation left symbol right leftIH rightIH =>
    have parts := cut_complete ranking _ _ symbol ranked.isCut
    cases other with
    | numeral otherText =>
      exact absurd same (inorder_operation_ne left right symbol otherText)
    | operation otherLeft otherSymbol otherRight =>
      rw [← inorder, same, inorder, cut_complete ranking _ _ otherSymbol otherRanked.isCut] at parts
      obtain ⟨sameLeft, sameSymbol, sameRight⟩ : _ ∧ _ ∧ _ := by simpa using parts
      obtain ⟨_, _, leftRanked, rightRanked⟩ := ranked
      obtain ⟨_, _, otherLeftRanked, otherRightRanked⟩ := otherRanked
      rw [leftIH otherLeft leftRanked otherLeftRanked sameLeft.symm, sameSymbol,
        rightIH otherRight rightRanked otherRightRanked sameRight.symm]

/-- The formulas on a stack after the tokens of a post-order are read: a number is put on it, and
a symbol joins the two topmost formulas. -/
def regrow : List Formula → List Token → List Formula
  | stack, [] => stack
  | stack, .number text :: rest => regrow (.numeral text :: stack) rest
  | right :: left :: below, .symbol c :: rest => regrow (.operation left c right :: below) rest
  | stack, .symbol _ :: _ => stack

theorem regrow_postorder (formula : Formula) (stack : List Formula) (rest : List Token) :
    regrow stack (formula.postorder ++ rest) = regrow (formula :: stack) rest := by
  induction formula generalizing stack rest with
  | numeral text => rfl
  | operation left symbol right leftIH rightIH =>
    simp only [postorder, List.append_assoc, leftIH, rightIH]
    rfl

theorem postorder_injective : Function.Injective postorder := by
  intro formula other same
  have regrown := regrow_postorder formula [] []
  rw [same, regrow_postorder other [] []] at regrown
  exact (List.singleton_inj.1 regrown).symm

end Formula
end Reckoner
