import Reckoner.Rpn.Value

/-! Steps and runs of the evaluation on a stack of numbers: what a token can do, how many numbers a
run leaves, what a fault tells about the tokens, and all that a run asks of the alphabet. -/

namespace Reckoner.Token

def isOperator (alphabet : String) (token : Token) : Bool :=
  (token.operator? alphabet).isSome

theorem isOperator_symbol_iff (alphabet : String) (c : Char) :
    (symbol c).isOperator alphabet = true ↔ c ∈ alphabet.toList := by
  rw [isOperator, operator?_symbol]
  split
  next known => simp [known]
  next unknown => simp [unknown]

theorem isOperator_number_iff (alphabet text : String) :
    (number text).isOperator alphabet = false ↔ ∀ c ∈ alphabet.toList, text.toList ≠ [c] := by
  rw [← operator?_number_eq_none_iff, ← Option.not_isSome_iff_eq_none, isOperator, Bool.not_eq_true]

end Reckoner.Token

namespace Reckoner.Rpn

variable (alphabet : String)

theorem run_congr (other : String) (values : Stack Float) (tokens : List Token)
    (same : ∀ token ∈ tokens, token.operator? alphabet = token.operator? other) :
    run alphabet values tokens = run other values tokens := by
  induction tokens generalizing values with
  | nil => rfl
  | cons token rest ih =>
    have here : step alphabet values token = step other values token := by
      rw [step, step, same token List.mem_cons_self]
    rw [run, run, here]
    split
    next next _ => exact ih next fun later member => same later (List.mem_cons_of_mem token member)
    next => rfl

theorem run_concat (values : Stack Float) (before : List Token) (token : Token) :
    run alphabet values (before ++ [token]) =
      (run alphabet values before).bind fun next => step alphabet next token := by
  rw [run_append]
  congr
  funext next
  rw [run]
  cases step alphabet next token with
  | ok last => rfl
  | error fault => rfl

theorem run_concat_eq_ok_iff (values final : Stack Float) (before : List Token) (token : Token) :
    run alphabet values (before ++ [token]) = .ok final ↔
      ∃ next, run alphabet values before = .ok next ∧ step alphabet next token = .ok final := by
  rw [run_concat]
  cases run alphabet values before with
  | ok next => simp [Except.bind]
  | error fault => simp [Except.bind]

theorem step_eq_ok_iff (values next : Stack Float) (token : Token) :
    step alphabet values token = .ok next ↔
      (∃ symbol right left below, token.operator? alphabet = some symbol ∧
        values = ⟨right :: left :: below⟩ ∧
        next = ⟨(Operator.ofSymbol symbol).apply left right :: below⟩) ∨
      (token.operator? alphabet = none ∧
        ∃ x, Numeral.read? token.text = some x ∧ next = values.push x) := by
  obtain ⟨elements⟩ := values
  unfold step
  cases token.operator? alphabet with
  | some symbol =>
    match elements with
    | [] => simp
    | [right] => simp
    | right :: left :: below =>
      simp only [Except.ok.injEq, Option.some.injEq, Stack.mk.injEq, reduceCtorEq, false_and, or_false]
      constructor
      · intro result
        exact ⟨symbol, right, left, below, rfl, rfl, result.symm⟩
      · intro applied
        obtain ⟨_, _, _, _, rfl, same, rfl⟩ := applied
        cases same
        rfl
  | none =>
    cases Numeral.read? token.text with
    | some x => simp [Stack.push, eq_comm]
    | none => simp

theorem step_eq_error_iff (values : Stack Float) (token : Token) (fault : Fault) :
    step alphabet values token = .error fault ↔
      (token.isOperator alphabet = true ∧ values.size < 2 ∧ fault = .underflow .pop) ∨
      (token.isOperator alphabet = false ∧ Numeral.read? token.text = none ∧
        fault = .invalidNumber token.text) := by
  obtain ⟨elements⟩ := values
  unfold step Token.isOperator Stack.size
  cases token.operator? alphabet with
  | some symbol =>
    match elements with
    | [] => simp [eq_comm]
    | [right] => simp [eq_comm]
    | right :: left :: below =>
      constructor
      · intro wrong
        cases wrong
      · intro refused
        rcases refused with ⟨_, few, _⟩ | ⟨wrong, _⟩
        · simp only [List.length_cons] at few
          omega
        · cases wrong
  | none =>
    cases Numeral.read? token.text with
    | some x => simp
    | none => simp [eq_comm]

theorem size_of_step (values next : Stack Float) (token : Token)
    (succeeds : step alphabet values token = .ok next) :
    next.size + 2 * (if token.isOperator alphabet = true then 1 else 0) = values.size + 1 := by
  rcases (step_eq_ok_iff alphabet values next token).1 succeeds with
    ⟨symbol, right, left, below, operator, rfl, rfl⟩ | ⟨value, x, _, rfl⟩
  · simp [Token.isOperator, operator, Stack.size]
  · simp [Token.isOperator, value, Stack.size, Stack.push]

/-- Every token adds a number but for the operators, which take one away. -/
theorem size_of_run (values final : Stack Float) (tokens : List Token)
    (succeeds : run alphabet values tokens = .ok final) :
    final.size + 2 * tokens.countP (Token.isOperator alphabet) = values.size + tokens.length := by
  induction tokens generalizing values with
  | nil =>
    cases succeeds
    rfl
  | cons token rest ih =>
    rw [run] at succeeds
    split at succeeds
    next next here =>
      have first := size_of_step alphabet values next token here
      have later := ih next succeeds
      rw [List.countP_cons, List.length_cons]
      omega
    next => cases succeeds

theorem readable_of_run (values final : Stack Float) (tokens : List Token)
    (succeeds : run alphabet values tokens = .ok final) :
    ∀ token ∈ tokens, token.isOperator alphabet = false → (Numeral.read? token.text).isSome := by
  induction tokens generalizing values with
  | nil => simp
  | cons token rest ih =>
    rw [run] at succeeds
    split at succeeds
    next next here =>
      intro other member value
      rcases List.mem_cons.mp member with rfl | later
      · rcases (step_eq_ok_iff alphabet values next other).1 here with
          ⟨symbol, _, _, _, operator, _⟩ | ⟨_, x, reads, _⟩
        · simp [Token.isOperator, operator] at value
        · simp [reads]
      · exact ih next succeeds other later value
    next => cases succeeds

theorem fault_of_run (values : Stack Float) (tokens : List Token) (fault : Fault)
    (fails : run alphabet values tokens = .error fault) :
    fault = .underflow .pop ∨ ∃ token ∈ tokens, token.isOperator alphabet = false ∧
      Numeral.read? token.text = none ∧ fault = .invalidNumber token.text := by
  induction tokens generalizing values with
  | nil => cases fails
  | cons token rest ih =>
    rw [run] at fails
    split at fails
    next next here =>
      rcases ih next fails with underflow | ⟨other, member, refused⟩
      · exact Or.inl underflow
      · exact Or.inr ⟨other, List.mem_cons_of_mem token member, refused⟩
    next first here =>
      cases fails
      rcases (step_eq_error_iff alphabet values token fault).1 here with
        ⟨_, _, underflow⟩ | refused
      · exact Or.inl underflow
      · exact Or.inr ⟨token, List.mem_cons_self, refused⟩

theorem value_eq_ok_iff (tokens : List Token) (x : Float) :
    value alphabet tokens = .ok x ↔ ∃ below, run alphabet .empty tokens = .ok ⟨x :: below⟩ := by
  unfold value
  split
  next y below succeeds =>
    rw [succeeds]
    simp [eq_comm]
  next succeeds =>
    rw [succeeds]
    simp
  next fault fails =>
    rw [fails]
    simp

theorem fault_of_value (tokens : List Token) (fault : Fault)
    (fails : value alphabet tokens = .error fault) :
    fault = .underflow .pop ∨ run alphabet .empty tokens = .error fault := by
  unfold value at fails
  split at fails
  · cases fails
  · exact Or.inl (Except.error.inj fails).symm
  next first stops =>
    cases fails
    exact Or.inr stops

end Reckoner.Rpn
