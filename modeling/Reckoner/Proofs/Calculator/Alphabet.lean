import Reckoner.Proofs.Calculator.Evaluation

/-! Evaluations of one expression under two alphabets. The alphabet decides whether an expression is
accepted and never what its value is, and only the set of its characters counts. -/

namespace Reckoner.Token

variable (alphabet other : String)

theorem operator?_eq_of_fits (token : Token) (fits : token.Fits alphabet)
    (otherFits : token.Fits other) : token.operator? alphabet = token.operator? other := by
  cases token with
  | number text =>
    rw [(operator?_number_eq_none_iff alphabet text).2 fits.2,
      (operator?_number_eq_none_iff other text).2 otherFits.2]
  | symbol c =>
    have known : c ∈ alphabet.toList := fits
    have otherKnown : c ∈ other.toList := otherFits
    rw [operator?_symbol, operator?_symbol, if_pos known, if_pos otherKnown]

theorem operator?_eq_of_mem_iff (same : ∀ c, c ∈ alphabet.toList ↔ c ∈ other.toList) (token : Token) :
    token.operator? alphabet = token.operator? other := by
  simp only [operator?, same]

end Reckoner.Token

namespace Reckoner.Calculator
open Token

variable (ranking : Ranking) (expression alphabet other : String)

theorem evaluate_congr
    (same : ∀ token ∈ scan expression, token.operator? alphabet = token.operator? other) :
    evaluate ⟨alphabet, ranking⟩ expression = evaluate ⟨other, ranking⟩ expression := by
  have runs := Rpn.run_congr alphabet other .empty (Rpn.ofInfix ranking (scan expression))
    fun token member => same token ((Rpn.ofInfix_perm ranking _).mem_iff.1 member)
  have values : Rpn.value alphabet (Rpn.ofInfix ranking (scan expression)) =
      Rpn.value other (Rpn.ofInfix ranking (scan expression)) := by
    rw [Rpn.value, Rpn.value, runs]
  by_cases empty : expression = ""
  · rw [empty, evaluate_empty, evaluate_empty]
  · rw [evaluate_of_ne_empty _ expression empty, evaluate_of_ne_empty _ expression empty]
    exact congrArg (Except.map some) values

theorem fits_of_evaluate (calculator : Calculator) (value : Option Float)
    (accepted : calculator.evaluate expression = .ok value) :
    ∀ token ∈ scan expression, token.Fits calculator.alphabet := by
  cases value with
  | none =>
    rw [(scan_eq_nil_iff expression).2 ((calculator.evaluate_eq_none_iff expression).1 accepted)]
    simp
  | some x => exact ((calculator.exists_value_iff expression).1 ⟨x, accepted⟩).2

theorem evaluate_eq_of_accepted (value otherValue : Option Float)
    (accepted : evaluate ⟨alphabet, ranking⟩ expression = .ok value)
    (otherAccepted : evaluate ⟨other, ranking⟩ expression = .ok otherValue) : value = otherValue := by
  have fits := fits_of_evaluate expression ⟨alphabet, ranking⟩ value accepted
  have otherFits := fits_of_evaluate expression ⟨other, ranking⟩ otherValue otherAccepted
  have same := evaluate_congr ranking expression alphabet other fun token member =>
    operator?_eq_of_fits alphabet other token (fits token member) (otherFits token member)
  rw [accepted, otherAccepted] at same
  exact Except.ok.inj same

theorem evaluate_of_wider_alphabet (value : Option Float)
    (accepted : evaluate ⟨alphabet, ranking⟩ expression = .ok value)
    (known : ∀ c, symbol c ∈ scan expression → c ∈ other.toList)
    (plain : ∀ c ∈ other.toList, number c.toString ∉ scan expression) :
    evaluate ⟨other, ranking⟩ expression = .ok value := by
  have fits := fits_of_evaluate expression ⟨alphabet, ranking⟩ value accepted
  have otherFits : ∀ token ∈ scan expression, token.Fits other := by
    intro token member
    cases token with
    | number text =>
      refine ⟨(fits _ member).1, fun c inside same => plain c inside ?_⟩
      have text_eq : text = c.toString := String.toList_inj.1 (by simp [same, Char.toString])
      exact text_eq ▸ member
    | symbol c => exact known c member
  rw [← evaluate_congr ranking expression alphabet other fun token member =>
    operator?_eq_of_fits alphabet other token (fits token member) (otherFits token member)]
  exact accepted

/-- Alphabets that accept an expression agree on it, so does a wider one that takes no numeral for an
operator, and alphabets of the same characters agree on values and faults alike. -/
theorem evaluate_under_alphabets :
    (∀ value otherValue, evaluate ⟨alphabet, ranking⟩ expression = .ok value →
        evaluate ⟨other, ranking⟩ expression = .ok otherValue → value = otherValue) ∧
      (∀ value, evaluate ⟨alphabet, ranking⟩ expression = .ok value →
        (∀ c, symbol c ∈ scan expression → c ∈ other.toList) →
        (∀ c ∈ other.toList, number c.toString ∉ scan expression) →
        evaluate ⟨other, ranking⟩ expression = .ok value) ∧
      ((∀ c, c ∈ alphabet.toList ↔ c ∈ other.toList) →
        evaluate ⟨alphabet, ranking⟩ expression = evaluate ⟨other, ranking⟩ expression) := by
  refine ⟨?_, ?_, ?_⟩
  · exact evaluate_eq_of_accepted ranking expression alphabet other
  · exact evaluate_of_wider_alphabet ranking expression alphabet other
  · intro same
    exact evaluate_congr ranking expression alphabet other fun token _ =>
      operator?_eq_of_mem_iff alphabet other same token

theorem evaluate_twelve_plus_five :
    evaluate ⟨"+1", .standard⟩ "12+5" = .ok (some 17) ∧
      (∃ value, evaluate ⟨"×+2", .standard⟩ "12+5" = .ok value ∧ some 17 = value) ∧
      evaluate ⟨"-+1", .standard⟩ "12+5" = .ok (some 17) ∧
      evaluate ⟨"+5", .standard⟩ "12+5" = .error (.underflow .pop) ∧
      evaluate ⟨"5+5", .standard⟩ "12+5" = .error (.underflow .pop) := by
  have tokens : scan "12+5" = [number "12", symbol '+', number "5"] := by decide
  have accepted : evaluate ⟨"+1", .standard⟩ "12+5" = .ok (some 17) := by decide +kernel
  have otherAccepted : evaluate ⟨"×+2", .standard⟩ "12+5" = .ok (some 17) := by decide +kernel
  have refused : evaluate ⟨"+5", .standard⟩ "12+5" = .error (.underflow .pop) := by decide
  obtain ⟨agree, _, _⟩ := evaluate_under_alphabets .standard "12+5" "+1" "×+2"
  obtain ⟨_, widen, _⟩ := evaluate_under_alphabets .standard "12+5" "+1" "-+1"
  obtain ⟨_, _, same⟩ := evaluate_under_alphabets .standard "12+5" "+5" "5+5"
  refine ⟨accepted, ⟨_, otherAccepted, agree _ _ accepted otherAccepted⟩, ?_, refused, ?_⟩
  · apply widen _ accepted
    · simp [tokens]
    · simp [tokens]
  · rw [← same (by simp [or_comm])]
    exact refused

end Reckoner.Calculator
