import Reckoner.Proofs.Formula.Traversal
import Reckoner.Proofs.Rpn.Departures

/-! Reverse Polish order is the post-order of the one ranked formula with the given tokens in
in-order. -/

namespace Reckoner.Rpn
open Infix
open scoped List

theorem ofInfix_perm (ranking : Ranking) (tokens : List Token) : ofInfix ranking tokens ~ tokens :=
  Yard.reorder_perm _ _ tokens

theorem waits_iff (token : Token) : (!token.isNumber) = true ↔ ∃ c, token = .symbol c := by
  cases token with
  | number text => simp
  | symbol c => simp

/-- In malformed expressions too, a symbol by which the tokens are cut comes last. -/
theorem ofInfix_cut (ranking : Ranking) (left right : List Token) (symbol : Char)
    (isCut : IsCut ranking left symbol right) :
    ofInfix ranking (left ++ .symbol symbol :: right) =
      ofInfix ranking left ++ (ofInfix ranking right ++ [.symbol symbol]) := by
  apply Yard.reorder_cut
  · rfl
  · intro token member waiting
    obtain ⟨c, rfl⟩ := (waits_iff token).1 waiting
    exact isCut.left_le c member
  · intro token member waiting
    obtain ⟨c, rfl⟩ := (waits_iff token).1 waiting
    exact isCut.right_lt c member

theorem ofInfix_inorder (ranking : Ranking) (formula : Formula) (ranked : formula.Ranked ranking) :
    ofInfix ranking formula.inorder = formula.postorder := by
  induction formula with
  | numeral text => rfl
  | operation left symbol right leftIH rightIH =>
    rw [Formula.inorder, ofInfix_cut ranking _ _ symbol ranked.isCut]
    obtain ⟨_, _, leftRanked, rightRanked⟩ := ranked
    rw [leftIH leftRanked, rightIH rightRanked, Formula.postorder]

/-- The ranked formula of an alternating list, its reverse Polish order, and the way back from that
order without the ranking. -/
theorem existsUnique_ranked_formula (ranking : Ranking) (tokens : List Token)
    (alternating : Alternating tokens) :
    (∃! formula : Formula, formula.inorder = tokens ∧ formula.Ranked ranking) ∧
      (∀ formula : Formula, formula.inorder = tokens → formula.Ranked ranking →
        ofInfix ranking tokens = formula.postorder) ∧
      ∀ (other : Ranking) (others : List Token), Alternating others →
        ofInfix ranking tokens = ofInfix other others → tokens = others := by
  obtain ⟨formula, inorder, ranked⟩ := Formula.exists_ranked ranking tokens alternating
  refine ⟨⟨formula, ⟨inorder, ranked⟩, ?_⟩, ?_, ?_⟩
  · intro another properties
    obtain ⟨anotherInorder, anotherRanked⟩ := properties
    exact Formula.eq_of_inorder_eq ranking another formula anotherRanked ranked
      (anotherInorder.trans inorder.symm)
  · intro another anotherInorder anotherRanked
    rw [← anotherInorder]
    exact ofInfix_inorder ranking another anotherRanked
  · intro other others othersAlternating same
    obtain ⟨another, anotherInorder, anotherRanked⟩ :=
      Formula.exists_ranked other others othersAlternating
    rw [← inorder, ← anotherInorder, ofInfix_inorder ranking formula ranked,
      ofInfix_inorder other another anotherRanked] at same
    rw [← inorder, ← anotherInorder, Formula.postorder_injective same]

theorem existsUnique_ranked_formula_six :
    ∃ formula : Formula, formula.inorder = [.number "6", .symbol '-', .number "2", .symbol '-',
        .number "1", .symbol '×', .number "3"] ∧ formula.Ranked .standard ∧
      (∃! other : Formula, other.inorder = formula.inorder ∧ other.Ranked .standard) ∧
      ofInfix .standard formula.inorder = formula.postorder ∧
      ∃ others, ofInfix .standard formula.inorder = ofInfix ⟨[('×', 1)]⟩ others ∧
        formula.inorder = others := by
  have alternating : Alternating [.number "6", .symbol '-', .number "2", .symbol '-', .number "1",
      .symbol '×', .number "3"] := .chain _ _ (.chain _ _ (.chain _ _ (.single _)))
  obtain ⟨unique, order, back⟩ := existsUnique_ranked_formula .standard _ alternating
  have ranked : Formula.Ranked .standard (.operation (.operation (.numeral "6") '-' (.numeral "2")) '-'
      (.operation (.numeral "1") '×' (.numeral "3"))) := by
    simp [Formula.Ranked, Formula.symbols]
    decide
  have same : ofInfix .standard [.number "6", .symbol '-', .number "2", .symbol '-', .number "1",
      .symbol '×', .number "3"] = ofInfix ⟨[('×', 1)]⟩ [.number "6", .symbol '-', .number "2",
      .symbol '-', .number "1", .symbol '×', .number "3"] := by decide
  exact ⟨_, rfl, ranked, unique, order _ rfl ranked, _, same, back ⟨[('×', 1)]⟩ _ alternating same⟩

end Reckoner.Rpn
