import Reckoner.Proofs.Calculator.Evaluation

/-! Symbols without a meaning under the standard ranking. They rank below all others, so one of them
is applied last wherever it stands, and the result of the whole expression is zero. -/

namespace Reckoner

theorem Operator.apply_of_meaningless (operator : Operator) (meaningless : operator.hasMeaning = false)
    (x y : Float) : operator.apply x y = 0 := by
  cases operator with
  | unknown symbol => rfl
  | add | subtract | multiply | divide | remainder => cases meaningless

theorem Ranking.rank_standard_eq_zero_iff (c : Char) :
    Ranking.standard.rank c = 0 ↔ (Operator.ofSymbol c).hasMeaning = false := by
  rw [← Bool.not_eq_true, Operator.hasMeaning_ofSymbol]
  constructor
  · intro zero member
    simp only [List.mem_cons, List.not_mem_nil, or_false] at member
    rcases member with rfl | rfl | rfl | rfl | rfl
    all_goals exact absurd zero (by decide)
  · intro absent
    have unlisted : Ranking.standard.entry? c = none := by
      simp only [List.mem_cons, List.not_mem_nil, or_false, not_or] at absent
      simp [Ranking.entry?, Ranking.standard, List.lookup_eq_none_iff, absent]
    rw [Ranking.rank, unlisted, Option.getD_none]

namespace Formula

theorem value_of_meaningless (alphabet : String) (formula : Formula) (x : Float)
    (ranked : formula.Ranked .standard) (result : formula.value alphabet = .ok x) (c : Char)
    (member : c ∈ formula.symbols) (meaningless : (Operator.ofSymbol c).hasMeaning = false) :
    x = 0 := by
  cases formula with
  | numeral text => cases member
  | operation left symbol right =>
    have least := ranked.rank_root_le c member
    rw [(Ranking.rank_standard_eq_zero_iff c).2 meaningless, Fin.le_zero_iff,
      Ranking.rank_standard_eq_zero_iff] at least
    simp only [value] at result
    split at result
    · cases result
    · cases result
    · split at result
      · rw [Operator.apply_of_meaningless _ least] at result
        exact (Except.ok.inj result).symm
      · cases result

end Formula

namespace Calculator
open Text Token

variable (alphabet expression : String)

theorem evaluate_eq_zero (x : Float)
    (accepted : evaluate ⟨alphabet, .standard⟩ expression = .ok (some x)) (c : Char)
    (member : c ∈ expression.toList) (other : isNumeralChar c = false)
    (meaningless : c ∉ ['+', '-', '×', '÷', '%']) : x = 0 := by
  obtain ⟨alternating, fits⟩ := (exists_value_iff ⟨alphabet, .standard⟩ expression).1 ⟨x, accepted⟩
  obtain ⟨formula, inorder, ranked, _, result⟩ := exists_formula ⟨alphabet, .standard⟩ expression
    alternating fun text inside => (fits (number text) inside).2
  have inFormula : c ∈ formula.symbols := by
    rw [← formula.symbol_mem_inorder, inorder, symbol_mem_scan_iff]
    exact ⟨member, other⟩
  rw [accepted] at result
  cases value : formula.value alphabet with
  | error fault =>
    rw [value] at result
    cases result
  | ok y =>
    rw [value] at result
    cases result
    apply formula.value_of_meaningless alphabet x ranked value c inFormula
    rwa [← Bool.not_eq_true, Operator.hasMeaning_ofSymbol]

/-- An accepted expression with a symbol that has no meaning evaluates to positive zero, whatever else
is in it; any other result rules such a symbol out. -/
theorem evaluate_of_meaningless_symbol :
    ((∃ value, evaluate ⟨alphabet, .standard⟩ expression = .ok value) →
        (∃ c ∈ expression.toList, isNumeralChar c = false ∧ c ∉ ['+', '-', '×', '÷', '%']) →
        evaluate ⟨alphabet, .standard⟩ expression = .ok (some 0) ∧
          calculate ⟨alphabet, .standard⟩ expression = .ok "0.0") ∧
      ∀ x, evaluate ⟨alphabet, .standard⟩ expression = .ok (some x) → x ≠ 0 →
        ∀ c ∈ expression.toList, isNumeralChar c = false → c ∈ ['+', '-', '×', '÷', '%'] := by
  constructor
  · intro accepted present
    obtain ⟨value, accepted⟩ := accepted
    obtain ⟨c, member, other, meaningless⟩ := present
    cases value with
    | none =>
      rw [(evaluate_eq_none_iff _ expression).1 accepted] at member
      cases member
    | some x =>
      have zero := evaluate_eq_zero alphabet expression x accepted c member other meaningless
      have shown : Display.text 0 = "0.0" := by decide +kernel
      rw [zero] at accepted
      refine ⟨accepted, ?_⟩
      rw [calculate, accepted, ← shown]
      rfl
  · intro x accepted nonzero c member other
    by_contra meaningless
    exact nonzero (evaluate_eq_zero alphabet expression x accepted c member other meaningless)

theorem evaluate_division_plus_power :
    evaluate ⟨"÷+^", .standard⟩ "5÷0+2^3" = .ok (some 0) ∧
      calculate ⟨"÷+^", .standard⟩ "5÷0+2^3" = .ok "0.0" ∧
      ∃ x, evaluate ⟨"÷+^", .standard⟩ "5÷0" = .ok (some x) ∧ x ≠ 0 ∧
        ∀ c ∈ "5÷0".toList, isNumeralChar c = false → c ∈ ['+', '-', '×', '÷', '%'] := by
  obtain ⟨wiped, _⟩ := evaluate_of_meaningless_symbol "÷+^" "5÷0+2^3"
  obtain ⟨_, known⟩ := evaluate_of_meaningless_symbol "÷+^" "5÷0"
  have accepted : evaluate ⟨"÷+^", .standard⟩ "5÷0+2^3" = .ok (some 0) := by decide +kernel
  have infinite : evaluate ⟨"÷+^", .standard⟩ "5÷0" =
      .ok (some (Binary64.ofPattern false Binary64.infinity)) := by decide +kernel
  have nonzero : Binary64.ofPattern false Binary64.infinity ≠ 0 := by decide +kernel
  obtain ⟨zero, shown⟩ := wiped ⟨_, accepted⟩ ⟨'^', by decide, by decide, by decide⟩
  exact ⟨zero, shown, _, infinite, nonzero, known _ infinite nonzero⟩

end Calculator
end Reckoner
