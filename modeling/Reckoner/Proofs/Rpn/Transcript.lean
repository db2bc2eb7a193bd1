import Mathlib.Data.List.Induction
import Reckoner.Proofs.Rpn.Step
import Reckoner.Rpn.Transcript

/-! Events of a run. They tell of the operators that were applied, each with the two numbers on top of
the stack at its turn, and of nothing else; where a run stops, its first fault is not among them. -/

namespace Reckoner.Rpn

/-- The events of tokens that are taken one after another from the empty stack. An operator adds its result
on the two topmost numbers, after a warning if its symbol has no meaning. -/
inductive Recorded (alphabet : String) : List Token → List Event → Prop
  | start : Recorded alphabet [] []
  | value {before : List Token} {events : List Event} (earlier : Recorded alphabet before events)
    (token : Token) (value : token.operator? alphabet = none) :
    Recorded alphabet (before ++ [token]) events
  | operator {before : List Token} {events : List Event} (earlier : Recorded alphabet before events)
    (token : Token) {symbol : Char} (operator : token.operator? alphabet = some symbol)
    {right left : Float} {below : List Float}
    (top : run alphabet .empty before = .ok ⟨right :: left :: below⟩) :
    Recorded alphabet (before ++ [token])
      (events ++ ((if symbol ∈ ['+', '-', '×', '÷', '%'] then [] else [.meaningless symbol]) ++
        [.applied left symbol right ((Operator.ofSymbol symbol).apply left right)]))

variable (alphabet : String)

theorem runEvents_append (values : Stack Float) (front back : List Token) :
    runEvents alphabet values (front ++ back) =
      runEvents alphabet values front ++
        match run alphabet values front with
        | .ok next => runEvents alphabet next back
        | .error _ => [] := by
  induction front generalizing values with
  | nil => rfl
  | cons token rest ih =>
    rw [List.cons_append, runEvents, runEvents, run]
    cases step alphabet values token with
    | ok next => simp only [ih, List.append_assoc]
    | error fault => simp

theorem stepEvents_of_value (values : Stack Float) (token : Token)
    (value : token.operator? alphabet = none) : stepEvents alphabet values token = [] := by
  rw [stepEvents, value]

theorem stepEvents_of_operator (token : Token) (symbol : Char) (right left : Float)
    (below : List Float) (operator : token.operator? alphabet = some symbol) :
    stepEvents alphabet ⟨right :: left :: below⟩ token =
      (if symbol ∈ ['+', '-', '×', '÷', '%'] then [] else [.meaningless symbol]) ++
        [.applied left symbol right ((Operator.ofSymbol symbol).apply left right)] := by
  simp only [stepEvents, operator, Operator.hasMeaning_ofSymbol]

theorem stepEvents_of_error (values : Stack Float) (token : Token) (fault : Fault)
    (stops : step alphabet values token = .error fault) : stepEvents alphabet values token = [] := by
  rcases (step_eq_error_iff alphabet values token fault).1 stops with ⟨_, few, _⟩ | ⟨value, _, _⟩
  · match values with
    | ⟨[]⟩ => simp [stepEvents]
    | ⟨[right]⟩ => simp [stepEvents]
    | ⟨right :: left :: below⟩ =>
      simp only [Stack.size, List.length_cons] at few
      omega
  · exact stepEvents_of_value alphabet values token (by simpa [Token.isOperator] using value)

theorem runEvents_singleton (values : Stack Float) (token : Token) :
    runEvents alphabet values [token] = stepEvents alphabet values token := by
  rw [runEvents]
  cases step alphabet values token with
  | ok next => exact List.append_nil _
  | error fault => exact List.append_nil _

/-- A run that fails stops at one token, after a run over the tokens before it. -/
theorem exists_stop_of_run (values : Stack Float) (tokens : List Token) (fault : Fault)
    (fails : run alphabet values tokens = .error fault) :
    ∃ taken next token later, tokens = taken ++ token :: later ∧
      run alphabet values taken = .ok next ∧ step alphabet next token = .error fault := by
  induction tokens generalizing values with
  | nil => cases fails
  | cons token rest ih =>
    rw [run] at fails
    cases here : step alphabet values token with
    | error first =>
      rw [here] at fails
      cases fails
      exact ⟨[], values, token, rest, rfl, rfl, here⟩
    | ok next =>
      rw [here] at fails
      obtain ⟨taken, last, stop, later, rfl, succeeds, stops⟩ := ih next fails
      refine ⟨token :: taken, last, stop, later, rfl, ?_, stops⟩
      rw [run, here]
      exact succeeds

theorem runEvents_of_stop (values next : Stack Float) (taken : List Token) (token : Token)
    (later : List Token) (fault : Fault) (succeeds : run alphabet values taken = .ok next)
    (stops : step alphabet next token = .error fault) :
    runEvents alphabet values (taken ++ token :: later) = runEvents alphabet values taken := by
  have nothing := stepEvents_of_error alphabet next token fault stops
  simp only [runEvents_append, succeeds, runEvents, nothing, stops, List.append_nil]

theorem recorded_of_run (final : Stack Float) (tokens : List Token)
    (succeeds : run alphabet .empty tokens = .ok final) :
    Recorded alphabet tokens (runEvents alphabet .empty tokens) := by
  induction tokens using List.reverseRecOn generalizing final with
  | nil => exact .start
  | append_singleton before token ih =>
    obtain ⟨values, earlier, here⟩ := (run_concat_eq_ok_iff alphabet .empty final before token).1 succeeds
    have recorded := ih values earlier
    have last := runEvents_singleton alphabet values token
    simp only [runEvents_append, earlier, last]
    rcases (step_eq_ok_iff alphabet values final token).1 here with
      ⟨symbol, right, left, below, operator, rfl, _⟩ | ⟨value, _⟩
    · rw [stepEvents_of_operator alphabet token symbol right left below operator]
      exact .operator recorded token operator earlier
    · rw [stepEvents_of_value alphabet values token value, List.append_nil]
      exact .value recorded token value

theorem Recorded.severity_ne_warn_iff {tokens : List Token} {events : List Event}
    (recorded : Recorded alphabet tokens events) :
    (∀ event ∈ events, event.severity ≠ .warn) ↔
      ∀ token ∈ tokens, ∀ symbol, token.operator? alphabet = some symbol →
        symbol ∈ ['+', '-', '×', '÷', '%'] := by
  induction recorded with
  | start => simp
  | value _ token value ih =>
    have nothing : ∀ symbol, token.operator? alphabet = some symbol →
        symbol ∈ ['+', '-', '×', '÷', '%'] := by simp [value]
    rw [List.forall_mem_append, List.forall_mem_singleton, ih, and_iff_left nothing]
  | @operator before events _ token symbol operator right left below _ ih =>
    have here : (∀ event ∈ (if symbol ∈ ['+', '-', '×', '÷', '%'] then [] else [Event.meaningless symbol]) ++
        [.applied left symbol right ((Operator.ofSymbol symbol).apply left right)],
          event.severity ≠ .warn) ↔ symbol ∈ ['+', '-', '×', '÷', '%'] := by
      by_cases known : symbol ∈ ['+', '-', '×', '÷', '%']
      · rw [if_pos known]
        simpa [Event.severity] using known
      · rw [if_neg known]
        simpa [Event.severity] using known
    rw [List.forall_mem_append, ih, here, List.forall_mem_append, List.forall_mem_singleton, operator]
    simp only [Option.some.injEq, forall_eq']

end Reckoner.Rpn
