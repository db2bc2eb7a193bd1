import Reckoner.Proofs.Calculator.Language
import Reckoner.Proofs.Rpn.Frame
import Reckoner.Proofs.Rpn.Transcript

/-! The log of a calculation. It shows every operator that was applied and how the calculation ended;
it has a warning unless the expression is accepted and all its symbols have a meaning. -/

namespace Reckoner

namespace Event

def entry (event : Event) : Severity × String × String :=
  (event.severity, event.source, event.message)

theorem record_trace (events : List Event) : record (some .trace) events = events := by
  apply List.filter_eq_self.2
  intro event _
  unfold isRecorded
  cases event.severity <;> rfl

end Event

namespace Calculator
open Infix Rpn Text Token

variable (calculator : Calculator) (expression : String)

theorem calculateEvents_of_ne_empty (nonempty : expression ≠ "") :
    calculator.calculateEvents expression =
      [.scanning expression, .scanned (scan expression).length,
          .ordered (calculator.rpnTexts expression)] ++
        valueEvents calculator.alphabet (calculator.rpn expression) ++
        match Rpn.value calculator.alphabet (calculator.rpn expression) with
        | .ok x => [.calculated expression (Display.text x)]
        | .error fault => [.failed expression fault] := by
  have tokens : ¬ (calculator.rpn expression).isEmpty = true :=
    mt (calculator.isEmpty_rpn expression).1 nonempty
  rw [calculateEvents, evaluateEvents, rpnEvents, calculate,
    evaluate_of_ne_empty calculator expression nonempty]
  simp only [if_neg tokens]
  cases Rpn.value calculator.alphabet (calculator.rpn expression) with
  | ok x => simp [Except.map]
  | error fault => simp [Except.map]

theorem events_of_value (nonempty : expression ≠ "") (x : Float)
    (result : Rpn.value calculator.alphabet (calculator.rpn expression) = .ok x) :
    calculator.calculateEvents expression =
      [.scanning expression, .scanned (scan expression).length,
          .ordered (calculator.rpnTexts expression)] ++
        runEvents calculator.alphabet .empty (calculator.rpn expression) ++
        [.evaluated x, .calculated expression (Display.text x)] := by
  have alone := (calculator.value_rpn_eq_ok_iff expression x).1 result
  rw [calculateEvents_of_ne_empty calculator expression nonempty, result, valueEvents, alone]
  simp [closingEvents]

theorem events_of_fault (nonempty : expression ≠ "") (fault : Fault)
    (result : Rpn.value calculator.alphabet (calculator.rpn expression) = .error fault) :
    calculator.calculateEvents expression =
      [.scanning expression, .scanned (scan expression).length,
          .ordered (calculator.rpnTexts expression)] ++
        runEvents calculator.alphabet .empty (calculator.rpn expression) ++
        [.failed expression fault] := by
  have stops := (value_eq_error_iff _ _ (calculator.rpn_ne_nil expression nonempty) fault).1 result
  rw [calculateEvents_of_ne_empty calculator expression nonempty, result, valueEvents, stops]
  simp [closingEvents]

theorem operators_of_fits (fits : ∀ token ∈ scan expression, token.Fits calculator.alphabet)
    (p : Char → Prop) :
    (∀ token ∈ calculator.rpn expression, ∀ c, token.operator? calculator.alphabet = some c → p c) ↔
      ∀ c ∈ expression.toList, isNumeralChar c = false → p c := by
  have same := calculator.rpn_perm expression
  constructor
  · intro holds c member other
    have inScan := (symbol_mem_scan_iff expression c).2 ⟨member, other⟩
    have known : c ∈ calculator.alphabet.toList := fits (symbol c) inScan
    exact holds (symbol c) (same.mem_iff.2 inScan) c (by rw [operator?_symbol, if_pos known])
  · intro holds token member c operator
    have inScan := same.mem_iff.1 member
    cases token with
    | number text =>
      rw [(operator?_number_eq_none_iff _ text).2 (fits _ inScan).2] at operator
      cases operator
    | symbol d =>
      have known : d ∈ calculator.alphabet.toList := fits (symbol d) inScan
      rw [operator?_symbol, if_pos known] at operator
      obtain ⟨inside, other⟩ := (symbol_mem_scan_iff expression d).1 inScan
      exact Option.some.inj operator ▸ holds d inside other

theorem no_warning_iff (nonempty : expression ≠ "") :
    (∀ event ∈ calculator.calculateEvents expression, event.severity ≠ .warn) ↔
      Sentence calculator.alphabet expression.toList ∧
        ∀ c ∈ expression.toList, isNumeralChar c = false → c ∈ ['+', '-', '×', '÷', '%'] := by
  rw [← exists_value_iff_sentence]
  cases result : Rpn.value calculator.alphabet (calculator.rpn expression) with
  | error fault =>
    have refused := (calculator.evaluate_eq_error_iff expression fault).2 ⟨nonempty, result⟩
    have warned : ¬ ∀ event ∈ calculator.calculateEvents expression, event.severity ≠ .warn := by
      rw [events_of_fault calculator expression nonempty fault result]
      intro quiet
      exact quiet (.failed expression fault) (by simp) rfl
    simp [warned, refused]
  | ok x =>
    have accepted := (calculator.evaluate_eq_some_iff expression x).2 result
    have succeeds := (calculator.value_rpn_eq_ok_iff expression x).1 result
    have recorded := recorded_of_run calculator.alphabet _ _ succeeds
    have fits := ((calculator.exists_value_iff expression).1 ⟨x, accepted⟩).2
    have opening : ∀ event ∈ [Event.scanning expression, .scanned (scan expression).length,
        .ordered (calculator.rpnTexts expression)], event.severity ≠ .warn := by simp [Event.severity]
    have ending : ∀ event ∈ [Event.evaluated x, .calculated expression (Display.text x)],
        event.severity ≠ .warn := by simp [Event.severity]
    rw [events_of_value calculator expression nonempty x result, List.forall_mem_append,
      List.forall_mem_append, and_iff_right opening, and_iff_left ending,
      recorded.severity_ne_warn_iff, operators_of_fits calculator expression fits,
      and_iff_right ⟨x, accepted⟩]

/-- The log of a calculation from its start over the operators applied to its result or its fault, its
warnings, and the records themselves. -/
theorem log_of_calculation (nonempty : expression ≠ "") :
    (∃ taken records ending,
      Event.record (some .trace) (calculator.calculateEvents expression) =
        [.scanning expression, .scanned (scan expression).length,
            .ordered (calculator.rpnTexts expression)] ++ records ++ ending ∧
      Recorded calculator.alphabet taken records ∧
      ((calculator.rpn expression = taken ∧
          ∃ x, calculator.evaluate expression = .ok (some x) ∧
            calculator.calculate expression = .ok (Display.text x) ∧
            ending = [.evaluated x, .calculated expression (Display.text x)]) ∨
        ∃ values token later fault, calculator.rpn expression = taken ++ token :: later ∧
          run calculator.alphabet .empty taken = .ok values ∧
          step calculator.alphabet values token = .error fault ∧
          calculator.calculate expression = .error fault ∧
          ending = [.failed expression fault])) ∧
    (∀ count, Event.unused count ∉ calculator.calculateEvents expression) ∧
    ((∀ event ∈ calculator.calculateEvents expression, event.severity ≠ .warn) ↔
      Sentence calculator.alphabet expression.toList ∧
        ∀ c ∈ expression.toList, isNumeralChar c = false → c ∈ ['+', '-', '×', '÷', '%']) ∧
    (∀ symbol, (Event.meaningless symbol).entry = (.warn, "infix_calc::evaluator::operator",
      "Operator '" ++ symbol.toString ++ "' has no arithmetic meaning, substituting 0.0")) ∧
    (∀ left symbol right result, (Event.applied left symbol right result).entry =
      (.debug, "infix_calc::evaluator::core",
        Event.numberStyle.text left ++ " " ++ symbol.toString ++ " " ++
          Event.numberStyle.text right ++ " = " ++ Event.numberStyle.text result)) ∧
    (∀ x, (Event.evaluated x).entry = (.debug, "infix_calc::evaluator::core",
      "Postfix evaluated to: " ++ Event.numberStyle.text x)) ∧
    (∀ result, (Event.calculated expression result).entry = (.info, "infix_calc::calculator::core",
      "'" ++ expression ++ "' = '" ++ result ++ "'")) ∧
    ∀ fault, (Event.failed expression fault).entry = (.warn, "infix_calc::calculator::core",
      "Failed to evaluate '" ++ expression ++ "': " ++ fault.message) := by
  refine ⟨?_, calculator.unused_not_mem_events expression,
    calculator.no_warning_iff expression nonempty, fun _ => rfl, fun _ _ _ _ => rfl, fun _ => rfl,
    fun _ => rfl, fun _ => rfl⟩
  rw [Event.record_trace]
  cases result : Rpn.value calculator.alphabet (calculator.rpn expression) with
  | ok x =>
    have accepted := (calculator.evaluate_eq_some_iff expression x).2 result
    have succeeds := (calculator.value_rpn_eq_ok_iff expression x).1 result
    exact ⟨_, _, _, events_of_value calculator expression nonempty x result,
      recorded_of_run calculator.alphabet _ _ succeeds,
      Or.inl ⟨rfl, x, accepted, calculator.calculate_of_evaluate expression x accepted, rfl⟩⟩
  | error fault =>
    have refused := (calculator.evaluate_eq_error_iff expression fault).2 ⟨nonempty, result⟩
    have fails := (value_eq_error_iff _ _ (calculator.rpn_ne_nil expression nonempty) fault).1 result
    obtain ⟨taken, values, token, later, order, succeeds, stops⟩ :=
      exists_stop_of_run calculator.alphabet .empty _ fault fails
    have events := events_of_fault calculator expression nonempty fault result
    rw [order, runEvents_of_stop calculator.alphabet .empty values taken token later fault succeeds
      stops] at events
    exact ⟨_, _, _, events, recorded_of_run calculator.alphabet values taken succeeds,
      Or.inr ⟨values, token, later, fault, order, succeeds, stops,
        calculator.calculate_of_fault expression fault refused, rfl⟩⟩

theorem log_of_difference_and_letter :
    ∃ taken records,
      Event.record (some .trace) (calculateEvents ⟨"-^", .standard⟩ "2^3-5a7") =
        [.scanning "2^3-5a7", .scanned 7, .ordered ["2", "3", "5", "-", "^", "7", "a"]] ++ records ++
          [.failed "2^3-5a7" (.invalidNumber "a")] ∧
      Recorded "-^" taken records ∧
      records = [.applied 3 '-' 5 (-2), .meaningless '^', .applied 2 '^' (-2) 0] := by
  obtain ⟨⟨taken, records, ending, log, recorded, outcome⟩, _⟩ :=
    log_of_calculation ⟨"-^", .standard⟩ "2^3-5a7" (by decide)
  have fails : calculate ⟨"-^", .standard⟩ "2^3-5a7" = .error (.invalidNumber "a") := by
    decide +kernel
  have events : Event.record (some .trace) (calculateEvents ⟨"-^", .standard⟩ "2^3-5a7") =
      [.scanning "2^3-5a7", .scanned 7, .ordered ["2", "3", "5", "-", "^", "7", "a"]] ++
        [.applied 3 '-' 5 (-2), .meaningless '^', .applied 2 '^' (-2) 0] ++
        [.failed "2^3-5a7" (.invalidNumber "a")] := by
    decide +kernel
  rcases outcome with ⟨_, x, _, wrong, _⟩ | ⟨_, _, _, fault, _, _, _, same, rfl⟩
  · cases fails.symm.trans wrong
  · cases fails.symm.trans same
    refine ⟨taken, records, log, recorded, ?_⟩
    rw [log] at events
    exact List.append_cancel_left (List.append_cancel_right events)

end Calculator
end Reckoner
