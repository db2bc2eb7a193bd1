import Mathlib.Data.List.Basic
import Reckoner.Proofs.Rpn.Frame

/-! Success and faults of an evaluation by counting. The numbers on the stack are as many as the values
among the tokens taken lead over the operators, so an operator is refused where that lead is below two
and a value where it cannot be read, and the first token refused gives the fault. -/

namespace Reckoner.Rpn

variable (alphabet : String)

/-- By how many the values among tokens outnumber the operators. -/
def lead (tokens : List Token) : Int :=
  (tokens.countP (fun token => !token.isOperator alphabet) : Int) -
    tokens.countP (Token.isOperator alphabet)

/-- The fault of the token at a position, by itself and the tokens before it: an operator has fewer than
two numbers, or a value cannot be read. -/
inductive RefusedAt (tokens : List Token) (i : Nat) : Fault → Prop
  | operator (token : Token) (here : tokens[i]? = some token)
    (operator : token.isOperator alphabet = true) (few : lead alphabet (tokens.take i) < 2) :
    RefusedAt tokens i (.underflow .pop)
  | value (token : Token) (here : tokens[i]? = some token)
    (value : token.isOperator alphabet = false) (unread : Numeral.read? token.text = none) :
    RefusedAt tokens i (.invalidNumber token.text)

structure FirstRefused (tokens : List Token) (i : Nat) (fault : Fault) : Prop where
  refused : RefusedAt alphabet tokens i fault
  first : ∀ j < i, ∀ other, ¬ RefusedAt alphabet tokens j other

variable {alphabet} {tokens : List Token}

theorem size_eq_lead (final : Stack Float) (succeeds : run alphabet .empty tokens = .ok final) :
    (final.size : Int) = lead alphabet tokens := by
  have total : final.size + 2 * tokens.countP (Token.isOperator alphabet) = 0 + tokens.length :=
    size_of_run alphabet .empty final tokens succeeds
  have parts := List.length_eq_countP_add_countP (Token.isOperator alphabet) (l := tokens)
  simp only [Bool.not_eq_true, Bool.decide_eq_false] at parts
  unfold lead
  omega

/-- Between tokens that are taken, the token refused is the one at which the next step stops. -/
theorem refusedAt_iff (i : Nat) (token : Token) (values : Stack Float) (fault : Fault)
    (here : tokens[i]? = some token) (taken : run alphabet .empty (tokens.take i) = .ok values) :
    RefusedAt alphabet tokens i fault ↔ step alphabet values token = .error fault := by
  have size := size_eq_lead values taken
  rw [step_eq_error_iff]
  constructor
  · intro refused
    cases refused with
    | operator other there operator few =>
      cases here.symm.trans there
      exact Or.inl ⟨operator, by omega, rfl⟩
    | value other there value unread =>
      cases here.symm.trans there
      exact Or.inr ⟨value, unread, rfl⟩
  · intro stops
    rcases stops with ⟨operator, few, rfl⟩ | ⟨value, unread, rfl⟩
    · exact .operator token here operator (by omega)
    · exact .value token here value unread

theorem RefusedAt.lt_length {i : Nat} {fault : Fault} (refused : RefusedAt alphabet tokens i fault) :
    i < tokens.length := by
  cases refused with
  | operator token here => exact (List.getElem?_eq_some_iff.1 here).1
  | value token here => exact (List.getElem?_eq_some_iff.1 here).1

theorem RefusedAt.eq {i : Nat} {fault other : Fault} (refused : RefusedAt alphabet tokens i fault)
    (again : RefusedAt alphabet tokens i other) : fault = other := by
  cases refused with
  | operator token here operator =>
    cases again with
    | operator => rfl
    | value _ there value =>
      cases here.symm.trans there
      exact absurd (operator.symm.trans value) Bool.false_ne_true.symm
  | value token here value =>
    cases again with
    | operator _ there operator =>
      cases here.symm.trans there
      exact absurd (operator.symm.trans value) Bool.false_ne_true.symm
    | value _ there =>
      cases here.symm.trans there
      rfl

theorem FirstRefused.eq {i j : Nat} {fault other : Fault}
    (refused : FirstRefused alphabet tokens i fault) (again : FirstRefused alphabet tokens j other) :
    fault = other := by
  rcases Nat.lt_trichotomy i j with before | rfl | after
  · exact absurd refused.refused (again.first i before fault)
  · exact refused.refused.eq again.refused
  · exact absurd again.refused (refused.first j after other)

variable (alphabet) (tokens) in
/-- A run over the tokens before a position succeeds if none of them is refused, and otherwise stops
with the fault of the first one. -/
theorem run_take (n : Nat) :
    ((∃ values, run alphabet .empty (tokens.take n) = .ok values) ∧
        ∀ i < n, ∀ fault, ¬ RefusedAt alphabet tokens i fault) ∨
      ∃ i fault, FirstRefused alphabet tokens i fault ∧
        run alphabet .empty (tokens.take n) = .error fault := by
  induction n with
  | zero => exact Or.inl ⟨⟨.empty, rfl⟩, fun i before => absurd before (Nat.not_lt_zero i)⟩
  | succ n ih =>
    rw [List.take_add_one]
    cases here : tokens[n]? with
    | none =>
      have beyond := List.getElem?_eq_none_iff.1 here
      rw [Option.toList_none, List.append_nil]
      refine ih.imp_left fun clear => ⟨clear.1, fun i _ fault refused => ?_⟩
      exact clear.2 i (Nat.lt_of_lt_of_le refused.lt_length beyond) fault refused
    | some token =>
      rw [Option.toList_some, run_concat]
      rcases ih with ⟨⟨values, taken⟩, clear⟩ | ⟨i, fault, refused, stopped⟩
      · have refusedHere := fun fault => refusedAt_iff n token values fault here taken
        rw [taken, Except.bind]
        cases next : step alphabet values token with
        | ok final =>
          refine Or.inl ⟨⟨final, rfl⟩, fun i before fault refused => ?_⟩
          rcases Nat.lt_succ_iff_lt_or_eq.1 before with earlier | rfl
          · exact clear i earlier fault refused
          · cases next.symm.trans ((refusedHere fault).1 refused)
        | error fault => exact Or.inr ⟨n, fault, ⟨(refusedHere fault).2 next, clear⟩, rfl⟩
      · rw [stopped]
        exact Or.inr ⟨i, fault, refused, rfl⟩

theorem run_eq_error_iff (fault : Fault) :
    run alphabet .empty tokens = .error fault ↔ ∃ i, FirstRefused alphabet tokens i fault := by
  have outcome := run_take alphabet tokens tokens.length
  rw [List.take_length] at outcome
  rcases outcome with ⟨⟨values, taken⟩, clear⟩ | ⟨i, first, refused, stopped⟩
  · rw [taken]
    refine iff_of_false (fun same => nomatch same) fun found => ?_
    obtain ⟨i, refused⟩ := found
    exact clear i refused.refused.lt_length fault refused.refused
  · rw [stopped]
    constructor
    · intro same
      exact ⟨i, Except.error.inj same ▸ refused⟩
    · intro found
      obtain ⟨j, again⟩ := found
      rw [refused.eq again]

theorem value_append_of_firstRefused {i : Nat} {fault : Fault}
    (refused : FirstRefused alphabet tokens i fault) (later : List Token) :
    value alphabet (tokens.take (i + 1) ++ later) = .error fault := by
  have stopped : run alphabet .empty (tokens.take (i + 1)) = .error fault := by
    rcases run_take alphabet tokens (i + 1) with
      ⟨_, clear⟩ | ⟨j, other, again, stopped⟩
    · exact absurd refused.refused (clear i (Nat.lt_succ_self i) fault)
    · rw [stopped, refused.eq again]
  have nonempty : tokens.take (i + 1) ++ later ≠ [] := by
    apply List.append_ne_nil_of_left_ne_nil
    intro empty
    rw [empty] at stopped
    cases stopped
  rw [value_eq_error_iff alphabet _ nonempty]
  exact run_append_of_error alphabet .empty _ later fault stopped

theorem exists_run_iff :
    (∃ values, run alphabet .empty tokens = .ok values) ↔
      ∀ i fault, ¬ RefusedAt alphabet tokens i fault := by
  have outcome := run_take alphabet tokens tokens.length
  rw [List.take_length] at outcome
  rcases outcome with ⟨succeeds, clear⟩ | ⟨i, first, refused, stopped⟩
  · exact iff_of_true succeeds fun i fault refused => clear i refused.lt_length fault refused
  · rw [stopped]
    exact iff_of_false (fun wrong => nomatch wrong) fun clear => clear i first refused.refused

theorem not_refused_iff :
    (∀ i fault, ¬ RefusedAt alphabet tokens i fault) ↔
      (∀ token ∈ tokens, token.isOperator alphabet = false → (Numeral.read? token.text).isSome = true) ∧
        ∀ i token, tokens[i]? = some token → token.isOperator alphabet = true →
          2 ≤ lead alphabet (tokens.take i) := by
  constructor
  · intro clear
    constructor
    · intro token member value
      obtain ⟨i, here⟩ := List.mem_iff_getElem?.1 member
      by_contra unread
      rw [Option.not_isSome_iff_eq_none] at unread
      exact clear i _ (.value token here value unread)
    · intro i token here operator
      by_contra few
      exact clear i _ (.operator token here operator (by omega))
  · intro parts i fault refused
    obtain ⟨readable, enough⟩ := parts
    cases refused with
    | operator token here operator few =>
      have two := enough i token here operator
      omega
    | value token here value unread =>
      have reads := readable token (List.mem_of_getElem? here) value
      rw [unread] at reads
      cases reads

theorem exists_value_iff_balanced (nonempty : tokens ≠ []) :
    (∃ x, value alphabet tokens = .ok x) ↔
      (∀ token ∈ tokens, token.isOperator alphabet = false → (Numeral.read? token.text).isSome = true) ∧
        ∀ i token, tokens[i]? = some token → token.isOperator alphabet = true →
          2 ≤ lead alphabet (tokens.take i) := by
  rw [← not_refused_iff, ← exists_run_iff]
  constructor
  · intro evaluated
    obtain ⟨x, evaluated⟩ := evaluated
    obtain ⟨below, succeeds⟩ := (value_eq_ok_iff alphabet tokens x).1 evaluated
    exact ⟨_, succeeds⟩
  · intro succeeds
    obtain ⟨final, succeeds⟩ := succeeds
    obtain ⟨x, _, _, evaluated⟩ := value_of_run alphabet tokens final nonempty succeeds
    exact ⟨x, evaluated⟩

end Reckoner.Rpn
