import Reckoner.Proofs.Calculator.Evaluation
import Reckoner.Proofs.Rpn.Frame

/-! Expressions joined by a symbol that binds no more tightly than the symbols before it and less
tightly than those after it. Their tokens are ordered side by side before that symbol, also where
the parts are malformed; so a fault of the first part remains, and values are combined by the
symbol's operator. -/

namespace Reckoner.Calculator
open Infix Rpn Text Token

variable (calculator : Calculator) (left right : String) (s : Char)

theorem scan_append_symbol (other : isNumeralChar s = false) :
    scan (left ++ s.toString ++ right) = scan left ++ symbol s :: scan right := by
  have characters : (left ++ s.toString ++ right).toList = left.toList ++ s :: right.toList := by
    simp [Char.toString]
  rw [scan, characters, scanAfter_append_symbol [] left.toList right.toList s other]
  rfl

theorem rpn_append_symbol (other : isNumeralChar s = false)
    (isCut : IsCut calculator.ranking (scan left) s (scan right)) :
    calculator.rpn (left ++ s.toString ++ right) =
      calculator.rpn left ++ (calculator.rpn right ++ [symbol s]) := by
  rw [rpn, scan_append_symbol left right s other, ofInfix_cut calculator.ranking _ _ s isCut]
  rfl

theorem append_symbol_ne_empty : left ++ s.toString ++ right ≠ "" := by
  intro empty
  have characters := congrArg String.toList empty
  simp [Char.toString] at characters

theorem run_eq_error_of_evaluate (expression : String) (fault : Fault)
    (fails : calculator.evaluate expression = .error fault) :
    run calculator.alphabet .empty (calculator.rpn expression) = .error fault := by
  obtain ⟨nonempty, fails⟩ := (calculator.evaluate_eq_error_iff expression fault).1 fails
  exact (Rpn.value_eq_error_iff _ _ (calculator.rpn_ne_nil expression nonempty) fault).1 fails

theorem run_eq_ok_of_evaluate (expression : String) (x : Float)
    (result : calculator.evaluate expression = .ok (some x)) :
    run calculator.alphabet .empty (calculator.rpn expression) = .ok ⟨[x]⟩ :=
  (calculator.value_rpn_eq_ok_iff expression x).1 ((calculator.evaluate_eq_some_iff expression x).1 result)

theorem evaluate_append_error (other : isNumeralChar s = false)
    (isCut : IsCut calculator.ranking (scan left) s (scan right)) (fault : Fault)
    (fails : calculator.evaluate left = .error fault) :
    calculator.evaluate (left ++ s.toString ++ right) = .error fault := by
  have stops := run_append_of_error calculator.alphabet .empty _ (calculator.rpn right ++ [symbol s])
    fault (calculator.run_eq_error_of_evaluate left fault fails)
  rw [← rpn_append_symbol calculator left right s other isCut] at stops
  have nonempty := append_symbol_ne_empty left right s
  exact (calculator.evaluate_eq_error_iff _ fault).2
    ⟨nonempty, (value_eq_error_iff _ _ (calculator.rpn_ne_nil _ nonempty) fault).2 stops⟩

theorem evaluate_append_ok (other : isNumeralChar s = false)
    (isCut : IsCut calculator.ranking (scan left) s (scan right))
    (known : s ∈ calculator.alphabet.toList) (x y : Float)
    (leftValue : calculator.evaluate left = .ok (some x))
    (rightValue : calculator.evaluate right = .ok (some y)) :
    calculator.evaluate (left ++ s.toString ++ right) =
      .ok (some ((Operator.ofSymbol s).apply x y)) := by
  have first := calculator.run_eq_ok_of_evaluate left x leftValue
  have second : run calculator.alphabet ⟨[x]⟩ (calculator.rpn right) = .ok ⟨[y, x]⟩ :=
    run_append_base calculator.alphabet [] [y] [x] _
      (calculator.run_eq_ok_of_evaluate right y rightValue)
  have third : run calculator.alphabet ⟨[y, x]⟩ [symbol s] =
      .ok ⟨[(Operator.ofSymbol s).apply x y]⟩ := by
    simp [run, step, operator?_symbol, known]
  rw [evaluate_eq_some_iff, value_rpn_eq_ok_iff, rpn_append_symbol calculator left right s other isCut]
  calc run calculator.alphabet .empty (calculator.rpn left ++ (calculator.rpn right ++ [symbol s]))
    _ = run calculator.alphabet ⟨[x]⟩ (calculator.rpn right ++ [symbol s]) :=
      run_append_of_ok _ _ _ _ _ first
    _ = run calculator.alphabet ⟨[y, x]⟩ [symbol s] := run_append_of_ok _ _ _ _ _ second
    _ = .ok ⟨[(Operator.ofSymbol s).apply x y]⟩ := third

/-- The order of a joined expression, a fault that it keeps, and its value. -/
theorem rpn_and_evaluate_of_joined
    (other : isNumeralChar s = false)
    (before : ∀ c, symbol c ∈ scan left → calculator.ranking.rank s ≤ calculator.ranking.rank c)
    (after : ∀ c, symbol c ∈ scan right → calculator.ranking.rank s < calculator.ranking.rank c) :
    calculator.rpn (left ++ s.toString ++ right) =
        calculator.rpn left ++ calculator.rpn right ++ [symbol s] ∧
      (∀ fault, calculator.evaluate left = .error fault →
        calculator.evaluate (left ++ s.toString ++ right) = .error fault) ∧
      (s ∈ calculator.alphabet.toList → ∀ x y, calculator.evaluate left = .ok (some x) →
        calculator.evaluate right = .ok (some y) →
        calculator.evaluate (left ++ s.toString ++ right) =
          .ok (some ((Operator.ofSymbol s).apply x y))) := by
  have isCut : IsCut calculator.ranking (scan left) s (scan right) := ⟨before, after⟩
  refine ⟨?_, ?_, ?_⟩
  · rw [List.append_assoc]
    exact calculator.rpn_append_symbol left right s other isCut
  · exact calculator.evaluate_append_error left right s other isCut
  · exact calculator.evaluate_append_ok left right s other isCut

theorem joined_at_plus_and_minus :
    (standard.rpn "4÷×+2×" = standard.rpn "4÷×" ++ standard.rpn "2×" ++ [symbol '+'] ∧
      standard.evaluate "4÷×" = .error (.underflow .pop) ∧
      standard.evaluate "4÷×+2×" = .error (.underflow .pop)) ∧
    standard.evaluate "8-3" = .ok (some 5) ∧ standard.evaluate "2×4" = .ok (some 8) ∧
      standard.evaluate "8-3-2×4" = .ok (some (Operator.subtract.apply 5 8)) := by
  have malformed : scan "4÷×" = [number "4", symbol '÷', symbol '×'] := by decide
  have unfinished : scan "2×" = [number "2", symbol '×'] := by decide
  have difference : scan "8-3" = [number "8", symbol '-', number "3"] := by decide
  have product : scan "2×4" = [number "2", symbol '×', number "4"] := by decide
  obtain ⟨order, fault, _⟩ := rpn_and_evaluate_of_joined standard "4÷×" "2×" '+' (by decide)
    (by simp [malformed]; decide) (by simp [unfinished]; decide)
  obtain ⟨_, _, value⟩ := rpn_and_evaluate_of_joined standard "8-3" "2×4" '-' (by decide)
    (by simp [difference]) (by simp [product]; decide)
  have fails : standard.evaluate "4÷×" = .error (.underflow .pop) := by decide
  have five : standard.evaluate "8-3" = .ok (some 5) := by decide +kernel
  have eight : standard.evaluate "2×4" = .ok (some 8) := by decide +kernel
  exact ⟨⟨order, fails, fault _ fails⟩, five, eight, value (by decide) 5 8 five eight⟩

end Reckoner.Calculator
