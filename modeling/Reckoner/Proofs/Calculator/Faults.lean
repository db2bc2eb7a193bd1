import Reckoner.Proofs.Calculator.Evaluation

/-! Which fault an expression has. Where all tokens are what they look like it is an underflow, and
where they alternate it is the first token refused in reverse Polish order. -/

namespace Reckoner.Calculator
open Infix Token

theorem fault_of_evaluate (calculator : Calculator) (expression : String) (fault : Fault)
    (fails : calculator.evaluate expression = .error fault) :
    fault = .underflow .pop ∨ ∃ token ∈ scan expression,
      token.isOperator calculator.alphabet = false ∧ Numeral.read? token.text = none ∧
        fault = .invalidNumber token.text := by
  obtain ⟨_, fails⟩ := (calculator.evaluate_eq_error_iff expression fault).1 fails
  rcases Rpn.fault_of_value calculator.alphabet _ fault fails with underflow | stops
  · exact Or.inl underflow
  · rcases Rpn.fault_of_run calculator.alphabet .empty _ fault stops with underflow | refused
    · exact Or.inl underflow
    · obtain ⟨token, member, refused⟩ := refused
      exact Or.inr ⟨token, (calculator.rpn_perm expression).mem_iff.1 member, refused⟩

theorem operator_or_readable (alphabet : String) (token : Token) (fits : token.Fits alphabet)
    (value : token.isOperator alphabet = false) : Numeral.read? token.text ≠ none := by
  cases token with
  | number text =>
    rw [text_number]
    exact Option.isSome_iff_ne_none.1 fits.1
  | symbol c =>
    rw [(isOperator_symbol_iff alphabet c).2 fits] at value
    cases value

theorem fault_of_fitting (calculator : Calculator) (expression : String)
    (fits : ∀ token ∈ scan expression, token.Fits calculator.alphabet) (fault : Fault) :
    calculator.evaluate expression = .error fault ↔
      fault = .underflow .pop ∧ expression ≠ "" ∧ ¬ Alternating (scan expression) := by
  have accepted := calculator.exists_value_iff expression
  have nothing := calculator.evaluate_eq_none_iff expression
  have only : ∀ other, calculator.evaluate expression = .error other → other = .underflow .pop := by
    intro other fails
    rcases calculator.fault_of_evaluate expression other fails with underflow | refused
    · exact underflow
    · obtain ⟨token, member, value, unread, _⟩ := refused
      exact absurd unread (operator_or_readable _ token (fits token member) value)
  cases result : calculator.evaluate expression with
  | error first =>
    rw [result] at accepted nothing
    have first_eq := only first result
    have notAlternating : ¬ Alternating (scan expression) := by
      intro alternating
      obtain ⟨x, wrong⟩ := accepted.2 ⟨alternating, fits⟩
      cases wrong
    have nonempty : expression ≠ "" := by
      intro empty
      cases nothing.2 empty
    simp [first_eq, nonempty, notAlternating, eq_comm]
  | ok value =>
    rw [result] at accepted nothing
    cases value with
    | none => simp [nothing.1 rfl]
    | some x => simp [(accepted.1 ⟨x, rfl⟩).1]

theorem fault_of_alternating (calculator : Calculator) (expression : String)
    (alternating : Alternating (scan expression))
    (plain : ∀ text, number text ∈ scan expression → ∀ c ∈ calculator.alphabet.toList, text.toList ≠ [c])
    (fault : Fault) :
    calculator.evaluate expression = .error fault ↔
      ∃ token, (calculator.rpn expression).find? (isRefused calculator.alphabet) = some token ∧
        fault = .invalidNumber token.text := by
  obtain ⟨formula, _, _, order, result⟩ := calculator.exists_formula expression alternating plain
  rw [order, ← formula.value_eq_error_iff, result]
  cases formula.value calculator.alphabet with
  | ok x => simp [Except.map]
  | error first => simp [Except.map]

/-- Faults of fitting tokens that do not alternate, and of alternating tokens that do not fit. -/
theorem evaluate_faults (calculator : Calculator) (expression : String) :
    ((∀ text, number text ∈ scan expression →
        (Numeral.read? text).isSome = true ∧ ∀ c ∈ calculator.alphabet.toList, text.toList ≠ [c]) →
      (∀ c, symbol c ∈ scan expression → c ∈ calculator.alphabet.toList) →
      (∀ text, calculator.evaluate expression ≠ .error (.invalidNumber text)) ∧
        (calculator.evaluate expression = .error (.underflow .pop) ↔
          expression ≠ "" ∧ ¬ Alternating (scan expression))) ∧
    (Alternating (scan expression) →
      (∀ text, number text ∈ scan expression → ∀ c ∈ calculator.alphabet.toList, text.toList ≠ [c]) →
      (∀ cause, calculator.evaluate expression ≠ .error (.underflow cause)) ∧
        ∀ fault, calculator.evaluate expression = .error fault ↔
          ∃ token, (calculator.rpn expression).find? (isRefused calculator.alphabet) = some token ∧
            fault = .invalidNumber token.text) := by
  constructor
  · intro numbers symbols
    have fits : ∀ token ∈ scan expression, token.Fits calculator.alphabet := by
      intro token member
      cases token with
      | number text => exact numbers text member
      | symbol c => exact symbols c member
    have faults := calculator.fault_of_fitting expression fits
    constructor
    · intro text fails
      cases ((faults _).1 fails).1
    · rw [faults, and_iff_right rfl]
  · intro alternating plain
    have faults := calculator.fault_of_alternating expression alternating plain
    constructor
    · intro cause fails
      obtain ⟨token, _, wrong⟩ := (faults _).1 fails
      cases wrong
    · exact faults

theorem evaluate_doubled_plus_and_late_letter :
    standard.evaluate "2++3" = .error (.underflow .pop) ∧
      standard.evaluate "4a5+1.2.3" = .error (.invalidNumber "1.2.3") := by
  have doubled : scan "2++3" = [number "2", symbol '+', symbol '+', number "3"] := by decide
  have letter : scan "4a5+1.2.3" = [number "4", symbol 'a', number "5", symbol '+', number "1.2.3"] := by
    decide
  constructor
  · apply ((evaluate_faults standard "2++3").1 ?_ ?_).2.2
    · refine ⟨by decide, ?_⟩
      rw [doubled]
      intro alternating
      cases alternating with
      | chain _ _ later => cases later
    · have reads : ∀ text ∈ ["2", "3"], (Numeral.read? text).isSome = true := by decide
      have plain : ∀ text ∈ ["2", "3"], ∀ c ∈ standard.alphabet.toList, text.toList ≠ [c] := by
        simp [standard, standardAlphabet]
      intro text member
      have listed : text ∈ ["2", "3"] := by simpa [doubled] using member
      exact ⟨reads text listed, plain text listed⟩
    · rw [doubled]
      simp [standard, standardAlphabet]
  · apply (((evaluate_faults standard "4a5+1.2.3").2 ?_ ?_).2 _).2
    · exact ⟨number "1.2.3", by decide, rfl⟩
    · rw [letter]
      exact .chain _ _ (.chain _ _ (.single _))
    · rw [letter]
      simp [standard, standardAlphabet]

end Reckoner.Calculator
