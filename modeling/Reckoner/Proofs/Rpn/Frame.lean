import Reckoner.Proofs.Rpn.Step

/-! Runs above numbers that already lie on the stack. A run that succeeds alone never reaches them,
and a run over tokens that succeeds leaves a number, so a list of tokens has a fault only where its
run stops. -/

namespace Reckoner.Rpn

variable (alphabet : String)

theorem run_append_of_ok (values next : Stack Float) (front back : List Token)
    (succeeds : run alphabet values front = .ok next) :
    run alphabet values (front ++ back) = run alphabet next back := by
  rw [run_append, succeeds]
  rfl

theorem run_append_of_error (values : Stack Float) (front back : List Token) (fault : Fault)
    (stops : run alphabet values front = .error fault) :
    run alphabet values (front ++ back) = .error fault := by
  rw [run_append, stops]
  rfl

theorem step_append_base (values next base : List Float) (token : Token)
    (succeeds : step alphabet ⟨values⟩ token = .ok ⟨next⟩) :
    step alphabet ⟨values ++ base⟩ token = .ok ⟨next ++ base⟩ := by
  rw [step_eq_ok_iff] at succeeds ⊢
  rcases succeeds with
    ⟨symbol, right, left, below, operator, taken, left_over⟩ | ⟨value, x, reads, same⟩
  · cases taken
    cases left_over
    exact Or.inl ⟨symbol, right, left, below ++ base, operator, rfl, rfl⟩
  · cases same
    exact Or.inr ⟨value, x, reads, rfl⟩

theorem run_append_base (values final base : List Float) (tokens : List Token)
    (succeeds : run alphabet ⟨values⟩ tokens = .ok ⟨final⟩) :
    run alphabet ⟨values ++ base⟩ tokens = .ok ⟨final ++ base⟩ := by
  induction tokens generalizing values with
  | nil =>
    cases succeeds
    rfl
  | cons token rest ih =>
    rw [run] at succeeds
    split at succeeds
    next next here =>
      obtain ⟨elements⟩ := next
      rw [run, step_append_base alphabet values elements base token here]
      exact ih elements succeeds
    next => cases succeeds

theorem size_pos_of_step (values next : Stack Float) (token : Token)
    (succeeds : step alphabet values token = .ok next) : 0 < next.size := by
  rcases (step_eq_ok_iff alphabet values next token).1 succeeds with
    ⟨symbol, right, left, below, _, _, rfl⟩ | ⟨_, x, _, rfl⟩
  · exact Nat.succ_pos below.length
  · exact Nat.succ_pos values.size

theorem size_pos_of_run (values final : Stack Float) (tokens : List Token)
    (start : tokens = [] → 0 < values.size) (succeeds : run alphabet values tokens = .ok final) :
    0 < final.size := by
  induction tokens generalizing values with
  | nil =>
    cases succeeds
    exact start rfl
  | cons token rest ih =>
    rw [run] at succeeds
    split at succeeds
    next next here =>
      exact ih next (fun _ => size_pos_of_step alphabet values next token here) succeeds
    next => cases succeeds

theorem value_of_run (tokens : List Token) (final : Stack Float) (nonempty : tokens ≠ [])
    (succeeds : run alphabet .empty tokens = .ok final) :
    ∃ x below, final = ⟨x :: below⟩ ∧ value alphabet tokens = .ok x := by
  have some_left := size_pos_of_run alphabet .empty final tokens
    (fun empty => absurd empty nonempty) succeeds
  match final with
  | ⟨[]⟩ => exact absurd some_left (Nat.lt_irrefl 0)
  | ⟨x :: below⟩ => exact ⟨x, below, rfl, (value_eq_ok_iff alphabet tokens x).2 ⟨below, succeeds⟩⟩

theorem value_eq_error_iff (tokens : List Token) (nonempty : tokens ≠ []) (fault : Fault) :
    value alphabet tokens = .error fault ↔ run alphabet .empty tokens = .error fault := by
  cases outcome : run alphabet .empty tokens with
  | ok final =>
    obtain ⟨x, _, _, evaluated⟩ := value_of_run alphabet tokens final nonempty outcome
    rw [evaluated]
    simp
  | error first => simp [value, outcome]

end Reckoner.Rpn
