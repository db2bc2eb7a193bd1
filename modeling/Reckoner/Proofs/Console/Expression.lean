import Reckoner.Proofs.Console.Input

/-! Runs on an expression. As an argument and as the only line of the input it is answered in the same way;
only the count of faults comes in addition at the end of an input. -/

namespace Reckoner.Console
open Text

theorem status_runExpression (settings : Settings) (expression : String) :
    (runExpression settings expression).status = 0 ↔
      ∃ result, settings.calculator.calculate expression = .ok result := by
  rw [← complaint?_eq_none_iff, runExpression, failed_answer]
  cases settings.complaint? expression with
  | none => simp
  | some line => simp

theorem runInput_of_single (settings : Settings) (expression : String) {input : List UInt8}
    (reads : Reads input [expression] false) :
    runInput settings input =
      ⟨(runExpression settings expression).status, (runExpression settings expression).output,
        opening settings ++ settings.record [.readingInput] ++ (answer settings expression).reports ++
          closing (Int32.ofNat (settings.complaint? expression).toList.length) false⟩ := by
  rw [runInput_of_reads settings reads, runExpression, output_answer, failed_answer]
  cases complaint : settings.complaint? expression with
  | none => simp [complaint]
  | some line => simp [complaint]

theorem errorText_runInput_of_single (settings : Settings) (expression : String) {input : List UInt8}
    (reads : Reads input [expression] false)
    (quiet : settings.severity = .error ∨ settings.severity = .warn) :
    (runInput settings input).errorText = (runExpression settings expression).errorText ++
      String.join ((closing (Int32.ofNat (settings.complaint? expression).toList.length) false).map Report.text) := by
  have unrecorded : settings.record [.readingInput] = [] := by
    rcases quiet with level | level
    · rw [Settings.record, level]
      rfl
    · rw [Settings.record, level]
      rfl
  rw [runInput_of_single settings expression reads, Outcome.errorText, unrecorded, List.append_nil,
    List.map_append, String.join_append]
  rfl

/-- An expression as an argument and as the only line of the input: the same output and status, and the
same errors but for the count of faults. -/
theorem run_on_argument_and_line (settings : Settings) (usable : settings.alphabet ≠ "")
    (expression : String) (nonempty : expression ≠ "") (plain : '\n' ∉ expression.toList)
    (first : ∀ c, expression.toList.head? = some c → isBlank c = false)
    (last : ∀ c, expression.toList.getLast? = some c → isBlank c = false) :
    Asks settings.arguments none settings ∧
    Asks (settings.arguments ++ positional expression) (some expression) settings ∧
    ∀ arguments others, Asks arguments (some expression) settings → Asks others none settings →
      ∀ unread, ∀ ending ∈ [[], [10], [13, 10]],
        let direct := (Command.ofArguments arguments).run unread
        let piped := (Command.ofArguments others).run (bytes expression ++ ending)
        piped.outputText = direct.outputText ∧ piped.status = direct.status ∧
        (settings.severity = .error ∨ settings.severity = .warn →
          ((∃ result, settings.calculator.calculate expression = .ok result) →
            piped.errorText = direct.errorText) ∧
          ((∃ fault, settings.calculator.calculate expression = .error fault) →
            piped.errorText =
              direct.errorText ++ "Error: 1 expression(s) failed to evaluate\n")) ∧
        (direct.status = 0 ↔ ∃ result, settings.calculator.calculate expression = .ok result) := by
  refine ⟨.of_arguments settings, .of_arguments_append settings expression, ?_⟩
  intro arguments others asks asksInput unread ending ended
  have argument : (Command.ofArguments arguments).run unread = runExpression settings expression := by
    rw [asks.command usable]
    rfl
  have line : (Command.ofArguments others).run (bytes expression ++ ending) =
      runInput settings (bytes expression ++ ending) := by
    rw [asksInput.command usable]
    rfl
  have reads := reads_single expression nonempty plain first last ending ended
  have same := runInput_of_single settings expression reads
  rw [argument, line]
  refine ⟨?_, ?_, ?_, status_runExpression settings expression⟩
  · rw [same]
    rfl
  · rw [same]
  · intro quiet
    rw [errorText_runInput_of_single settings expression reads quiet]
    constructor
    · intro succeeds
      rw [(complaint?_eq_none_iff settings expression).2 succeeds]
      exact String.append_empty
    · rintro ⟨fault, fails⟩
      have count : String.join ((closing (Int32.ofNat 1) false).map Report.text) =
          "Error: 1 expression(s) failed to evaluate\n" := by decide +kernel
      rw [Settings.complaint?, fails, ← count]
      rfl

theorem run_on_minus_five :
    let direct := (Command.ofArguments ["-po", "+-", "--", "-5"]).run []
    let piped := (Command.ofArguments ["--operators=+-", "--postfix"]).run (bytes "-5" ++ [13, 10])
    piped.outputText = direct.outputText ∧ piped.status = direct.status ∧
      piped.errorText = direct.errorText ++ "Error: 1 expression(s) failed to evaluate\n" ∧
      direct.status ≠ 0 := by
  have asks : Asks ["-po", "+-", "--", "-5"] (some "-5") ⟨"+-", true, .warn⟩ :=
    ⟨⟨some "-5", some "+-", none, true, none, true⟩, by decide +kernel, rfl, rfl⟩
  have asksInput : Asks ["--operators=+-", "--postfix"] none ⟨"+-", true, .warn⟩ :=
    ⟨⟨none, some "+-", none, true, none, false⟩, by decide +kernel, rfl, rfl⟩
  have fails : (Settings.calculator ⟨"+-", true, .warn⟩).calculate "-5" = .error (.underflow .pop) := by
    decide +kernel
  have sign : isBlank '-' = false := by decide
  have digit : isBlank '5' = false := by decide
  obtain ⟨_, _, agree⟩ := run_on_argument_and_line ⟨"+-", true, .warn⟩ (by decide) "-5" (by decide)
    (by decide) (by simpa using sign) (by simpa using digit)
  obtain ⟨output, status, errors, succeeds⟩ := agree _ _ asks asksInput [] [13, 10] (by simp)
  refine ⟨output, status, (errors (Or.inr rfl)).2 ⟨_, fails⟩, ?_⟩
  intro wrong
  obtain ⟨result, shown⟩ := succeeds.1 wrong
  cases fails.symm.trans shown

end Reckoner.Console
