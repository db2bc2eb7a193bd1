import Reckoner.Proofs.Calculator.Evaluation

/-! The meaning of an expression. Where numbers and symbols alternate and every token is what it
looks like, an expression has the value that cutting it at its rightmost symbols of least rank
gives, the value of the left side being the left operand. It is the value of one formula, whose
operations are those that the evaluation applies. -/

namespace Reckoner.Calculator
open Infix Token

theorem evaluate_eq_value_of_cuts (calculator : Calculator) (expression : String)
    (alternating : Alternating (scan expression))
    (known : ∀ c, symbol c ∈ scan expression → c ∈ calculator.alphabet.toList)
    (readable : ∀ text, number text ∈ scan expression → (Numeral.read? text).isSome = true)
    (plain : ∀ text, number text ∈ scan expression → ∀ c ∈ calculator.alphabet.toList, text.toList ≠ [c]) :
    ∃ x, value? calculator.ranking (scan expression) = some x ∧
      calculator.evaluate expression = .ok (some x) ∧
      ∃ formula : Formula, formula.inorder = scan expression ∧ formula.Ranked calculator.ranking ∧
        calculator.rpn expression = formula.postorder ∧
        formula.value calculator.alphabet = .ok x := by
  obtain ⟨formula, inorder, ranked, order, result⟩ :=
    calculator.exists_formula expression alternating plain
  have fits : ∀ token ∈ formula.inorder, token.Fits calculator.alphabet := by
    intro token member
    rw [inorder] at member
    cases token with
    | number text => exact ⟨readable text member, plain text member⟩
    | symbol c => exact known c member
  obtain ⟨x, value⟩ := formula.exists_value calculator.alphabet fun token member =>
    (fits token member).isRefused
  have symbols : ∀ c ∈ formula.symbols, c ∈ calculator.alphabet.toList := by
    intro c member
    exact fits (symbol c) ((formula.symbol_mem_inorder c).2 member)
  have cuts := formula.value?_inorder calculator.alphabet calculator.ranking ranked symbols
  rw [inorder, value] at cuts
  refine ⟨x, cuts, ?_, formula, inorder, ranked, order, value⟩
  rw [result, value]
  rfl

theorem evaluate_seven_minus_product_minus_one :
    ∃ x, value? .standard (scan "7-2×3-1") = some x ∧
      standard.evaluate "7-2×3-1" = .ok (some x) ∧
      ∃ formula : Formula, formula.inorder = scan "7-2×3-1" ∧ formula.Ranked .standard ∧
        standard.rpn "7-2×3-1" = formula.postorder ∧
        formula.value standardAlphabet = .ok x := by
  have tokens : scan "7-2×3-1" = [number "7", symbol '-', number "2", symbol '×', number "3",
    symbol '-', number "1"] := by decide
  apply evaluate_eq_value_of_cuts standard "7-2×3-1"
  · rw [tokens]
    exact .chain _ _ (.chain _ _ (.chain _ _ (.single _)))
  · rw [tokens]
    simp [standard, standardAlphabet]
  · have reads : ∀ text ∈ ["7", "2", "3", "1"], (Numeral.read? text).isSome = true := by decide
    intro text member
    exact reads text (by simpa [tokens] using member)
  · rw [tokens]
    simp [standard, standardAlphabet]

end Reckoner.Calculator
