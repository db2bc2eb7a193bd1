import Reckoner.Proofs.Calculator.Language
import Reckoner.Proofs.Display.Range

/-! Results as expressions. A result that the display writes out is an expression for the same number,
whatever digits the alphabet has; every other result is refused by an alphabet without the mark of an
exponent. -/

namespace Reckoner.Calculator
open Display

variable (calculator : Calculator)

theorem evaluate_text_of_isPlain (x : Float) (plain : IsPlain x) :
    calculator.evaluate (Display.text x) = .ok (some x) := by
  obtain ⟨d, characters, nearest⟩ := toList_text_of_isPlain x plain
  obtain ⟨numeral, several, reads⟩ := d.readChars?_positionalText
  rw [← characters] at numeral several reads
  apply calculator.evaluate_numeral (Display.text x) (text_ne_empty x) numeral
  · intro c _ single
    rw [single] at several
    exact absurd several (Nat.lt_irrefl 1)
  · rw [Numeral.read?, reads, nearest]

theorem exists_fault_of_not_isPlain (exponentFree : 'E' ∉ calculator.alphabet.toList) (x : Float)
    (plain : ¬ IsPlain x) : ∃ fault, calculator.evaluate (Display.text x) = .error fault := by
  rw [exists_fault_iff]
  refine ⟨text_ne_empty x, ?_⟩
  intro sentence
  rcases toList_text_of_not_isPlain x plain with ⟨c, rest, first, other⟩ | marked
  · obtain ⟨d, _, same, numeral⟩ := sentence.exists_head
    rw [first] at same
    cases same
    exact absurd (other.symm.trans numeral) Bool.false_ne_true
  · exact exponentFree (sentence.mem_alphabet 'E' marked (by decide))

theorem calculate_text_of_isPlain (x : Float) (plain : IsPlain x) :
    calculator.calculate (Display.text x) = .ok (Display.text x) :=
  calculator.calculate_of_evaluate _ x (calculator.evaluate_text_of_isPlain x plain)

theorem exists_fault_of_calculate_text (exponentFree : 'E' ∉ calculator.alphabet.toList) (x : Float)
    (plain : ¬ IsPlain x) : ∃ fault, calculator.calculate (Display.text x) = .error fault := by
  obtain ⟨fault, fails⟩ := calculator.exists_fault_of_not_isPlain exponentFree x plain
  exact ⟨fault, calculator.calculate_of_fault _ fault fails⟩

theorem exists_text_of_calculate (expression result : String)
    (shown : calculator.calculate expression = .ok result) (nonempty : result ≠ "") :
    ∃ x, result = Display.text x := by
  cases value : calculator.evaluate expression with
  | error fault =>
    rw [calculator.calculate_of_fault expression fault value] at shown
    cases shown
  | ok answer =>
    cases answer with
    | none =>
      rw [calculate, value] at shown
      exact absurd (Except.ok.inj shown).symm nonempty
    | some x =>
      rw [calculator.calculate_of_evaluate expression x value] at shown
      exact ⟨x, (Except.ok.inj shown).symm⟩

/-- A result in the plain range is calculated to itself and evaluated to its number, any other result
is a fault, and so no result is ever calculated to another one. -/
theorem calculate_of_results (exponentFree : 'E' ∉ calculator.alphabet.toList) :
    (∀ x, IsPlain x → calculator.calculate (Display.text x) = .ok (Display.text x) ∧
        calculator.evaluate (Display.text x) = .ok (some x)) ∧
      (∀ x, ¬ IsPlain x → ∃ fault, calculator.calculate (Display.text x) = .error fault) ∧
      ∀ expression result, calculator.calculate expression = .ok result → result ≠ "" →
        calculator.calculate result = .ok result ∨
          ∃ fault, calculator.calculate result = .error fault := by
  refine ⟨?_, ?_, ?_⟩
  · intro x plain
    exact ⟨calculator.calculate_text_of_isPlain x plain, calculator.evaluate_text_of_isPlain x plain⟩
  · exact calculator.exists_fault_of_calculate_text exponentFree
  · intro expression result shown nonempty
    obtain ⟨x, rfl⟩ := calculator.exists_text_of_calculate expression result shown nonempty
    by_cases plain : IsPlain x
    · exact Or.inl (calculator.calculate_text_of_isPlain x plain)
    · exact Or.inr (calculator.exists_fault_of_calculate_text exponentFree x plain)

theorem calculate_of_quotients :
    'E' ∉ (⟨"÷-.025N", .standard⟩ : Calculator).alphabet.toList ∧
      (IsPlain 0.125 ∧
        calculate ⟨"÷-.025N", .standard⟩ (Display.text 0.125) = .ok (Display.text 0.125) ∧
        evaluate ⟨"÷-.025N", .standard⟩ (Display.text 0.125) = .ok (some 0.125)) ∧
      (¬ IsPlain (-0.0) ∧
        ∃ fault, calculate ⟨"÷-.025N", .standard⟩ (Display.text (-0.0)) = .error fault) ∧
      calculate ⟨"÷-.025N", .standard⟩ "1÷8" = .ok "0.125" ∧
      (calculate ⟨"÷-.025N", .standard⟩ "0.125" = .ok "0.125" ∨
        ∃ fault, calculate ⟨"÷-.025N", .standard⟩ "0.125" = .error fault) := by
  have exponentFree : 'E' ∉ (⟨"÷-.025N", .standard⟩ : Calculator).alphabet.toList := by decide
  have quotient : IsPlain 0.125 := by decide +kernel
  have negative : ¬ IsPlain (-0.0) := by decide +kernel
  have divided : calculate ⟨"÷-.025N", .standard⟩ "1÷8" = .ok "0.125" := by decide +kernel
  obtain ⟨plain, refused, redisplayed⟩ := calculate_of_results ⟨"÷-.025N", .standard⟩ exponentFree
  exact ⟨exponentFree, ⟨quotient, plain 0.125 quotient⟩, ⟨negative, refused (-0.0) negative⟩, divided,
    redisplayed "1÷8" "0.125" divided (by decide)⟩

end Reckoner.Calculator
