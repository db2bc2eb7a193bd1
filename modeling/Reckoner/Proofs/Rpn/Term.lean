import Mathlib.Data.List.Induction
import Reckoner.Proofs.Rpn.Balance

/-! Complete expressions in reverse Polish order: the post-orders of terms whose leaves are values and
whose inner nodes are operators, whatever the sorts of the tokens. Of the tokens of a successful run
exactly one suffix is complete, and it alone makes the result. -/

namespace Reckoner.Rpn

/-- Terms over an alphabet, with the tokens that spell them. -/
inductive Term (alphabet : String)
  | value (token : Token) (plain : token.operator? alphabet = none)
  | operation (left right : Term alphabet) (token : Token) (symbol : Char)
    (operator : token.operator? alphabet = some symbol)

namespace Term

variable {alphabet : String}

def postorder : Term alphabet → List Token
  | .value token _ => [token]
  | .operation left right token _ _ => left.postorder ++ (right.postorder ++ [token])

def result : Term alphabet → Except Fault Float
  | .value token _ =>
    match Numeral.read? token.text with
    | some x => .ok x
    | none => .error (.invalidNumber token.text)
  | .operation left right _ symbol _ =>
    left.result.bind fun x => right.result.bind fun y => .ok ((Operator.ofSymbol symbol).apply x y)

theorem run_postorder (term : Term alphabet) (values : Stack Float) (rest : List Token) :
    run alphabet values (term.postorder ++ rest) =
      term.result.bind fun x => run alphabet (values.push x) rest := by
  induction term generalizing values rest with
  | value token plain =>
    simp only [postorder, List.singleton_append, run, step, plain, result]
    cases Numeral.read? token.text with
    | none => rfl
    | some x => rfl
  | operation left right token symbol operator leftIH rightIH =>
    simp only [postorder, List.append_assoc, List.singleton_append, result]
    rw [leftIH]
    cases left.result with
    | error fault => rfl
    | ok x =>
      rw [Except.bind, rightIH]
      cases right.result with
      | error fault => rfl
      | ok y => simp only [Except.bind, run, step, operator, Stack.push]

/-- A post-order is recognised from its end, so no token list ends in those of two terms. -/
theorem eq_of_append_postorder (term other : Term alphabet) (before otherBefore : List Token)
    (same : before ++ term.postorder = otherBefore ++ other.postorder) :
    term = other ∧ before = otherBefore := by
  induction term generalizing other before otherBefore with
  | value token plain =>
    cases other with
    | value otherToken =>
      obtain ⟨rfl, last⟩ := List.append_inj' same rfl
      cases last
      exact ⟨rfl, rfl⟩
    | operation left right otherToken symbol operator =>
      simp only [postorder, ← List.append_assoc] at same
      obtain ⟨_, last⟩ := List.append_inj' same rfl
      cases last
      cases plain.symm.trans operator
  | operation left right token symbol operator leftIH rightIH =>
    cases other with
    | value otherToken plain =>
      simp only [postorder, ← List.append_assoc] at same
      obtain ⟨_, last⟩ := List.append_inj' same rfl
      cases last
      cases plain.symm.trans operator
    | operation otherLeft otherRight otherToken otherSymbol otherOperator =>
      simp only [postorder, ← List.append_assoc] at same
      obtain ⟨fronts, last⟩ := List.append_inj' same rfl
      cases last
      obtain ⟨rfl, lefts⟩ := rightIH otherRight _ _ fronts
      obtain ⟨rfl, rest⟩ := leftIH otherLeft _ _ lefts
      cases operator.symm.trans otherOperator
      exact ⟨rfl, rest⟩

theorem eq_of_postorder_suffix (term other : Term alphabet) (tokens : List Token)
    (suffix : term.postorder <:+ tokens) (otherSuffix : other.postorder <:+ tokens) : term = other := by
  obtain ⟨before, here⟩ := suffix
  obtain ⟨otherBefore, there⟩ := otherSuffix
  exact (eq_of_append_postorder term other before otherBefore (here.trans there.symm)).1

end Term

variable (alphabet : String)

/-- The tokens of a successful run are the post-orders of one term for each number left on the stack. -/
theorem exists_terms_of_run (tokens : List Token) (final : List Float)
    (succeeds : run alphabet .empty tokens = .ok ⟨final⟩) :
    ∃ terms : List (Term alphabet), terms.reverse.flatMap Term.postorder = tokens ∧
      terms.map Term.result = final.map .ok := by
  induction tokens using List.reverseRecOn generalizing final with
  | nil =>
    cases succeeds
    exact ⟨[], rfl, rfl⟩
  | append_singleton before token ih =>
    obtain ⟨⟨values⟩, earlier, here⟩ := (run_concat_eq_ok_iff alphabet .empty _ before token).1 succeeds
    obtain ⟨terms, spelled, results⟩ := ih values earlier
    rcases (step_eq_ok_iff alphabet _ _ token).1 here with
      ⟨symbol, y, x, below, operator, top, after⟩ | ⟨plain, x, reads, after⟩
    · cases top
      cases after
      obtain ⟨right, others, rfl, rightResult, results⟩ := List.map_eq_cons_iff.1 results
      obtain ⟨left, others, rfl, leftResult, results⟩ := List.map_eq_cons_iff.1 results
      refine ⟨.operation left right token symbol operator :: others, ?_, ?_⟩
      · rw [← spelled]
        simp [Term.postorder]
      · rw [List.map_cons, List.map_cons, results, Term.result, leftResult, rightResult]
        rfl
    · cases after
      refine ⟨.value token plain :: terms, ?_, ?_⟩
      · rw [← spelled]
        simp [Term.postorder]
      · rw [List.map_cons, results, Term.result, reads]
        rfl

theorem value_append_postorder (before : List Token) (values : Stack Float)
    (taken : run alphabet .empty before = .ok values) (term : Term alphabet) :
    value alphabet (before ++ term.postorder) = term.result := by
  have whole := run_append_of_ok alphabet .empty values before term.postorder taken
  have above := term.run_postorder values []
  rw [List.append_nil] at above
  rw [value, whole, above]
  cases term.result with
  | ok x => rfl
  | error fault => rfl

theorem exists_suffix_of_value (tokens : List Token) (x : Float)
    (evaluated : value alphabet tokens = .ok x) :
    ∃ term : Term alphabet, term.postorder <:+ tokens ∧ term.result = .ok x := by
  obtain ⟨below, succeeds⟩ := (value_eq_ok_iff alphabet tokens x).1 evaluated
  obtain ⟨terms, spelled, results⟩ := exists_terms_of_run alphabet tokens _ succeeds
  obtain ⟨term, others, rfl, result, _⟩ := List.map_eq_cons_iff.1 results
  refine ⟨term, ⟨others.reverse.flatMap Term.postorder, ?_⟩, result⟩
  rw [← spelled]
  simp

/-- The evaluation of any tokens. It succeeds on a balanced list of readable values; otherwise the
first token refused gives the fault, whatever follows. On success the stack holds as many numbers as
the values lead over the operators, at least the one that is the result, and that is the number of the
one complete suffix, whatever stands before it. -/
theorem value_of_any_tokens :
    (∀ tokens, (∃ x, value alphabet tokens = .ok x) ↔ tokens ≠ [] ∧
        (∀ token ∈ tokens, token.isOperator alphabet = false →
          (Numeral.read? token.text).isSome = true) ∧
        ∀ i token, tokens[i]? = some token → token.isOperator alphabet = true →
          2 ≤ lead alphabet (tokens.take i)) ∧
      (∀ tokens, tokens ≠ [] → ∀ fault, value alphabet tokens = .error fault ↔
        ∃ i, FirstRefused alphabet tokens i fault) ∧
      (∀ tokens i fault, FirstRefused alphabet tokens i fault → ∀ later,
        value alphabet (tokens.take (i + 1) ++ later) = .error fault) ∧
      (∀ tokens final, tokens ≠ [] → run alphabet .empty tokens = .ok final →
        (final.size : Int) = lead alphabet tokens ∧ 1 ≤ lead alphabet tokens ∧
          ∃ x below, final = ⟨x :: below⟩ ∧ value alphabet tokens = .ok x) ∧
      (∀ tokens x, value alphabet tokens = .ok x → ∃ term : Term alphabet,
        term.postorder <:+ tokens ∧ term.result = .ok x ∧
          ∀ other : Term alphabet, other.postorder <:+ tokens → other = term) ∧
      ∀ before values, run alphabet .empty before = .ok values → ∀ term : Term alphabet,
        value alphabet (before ++ term.postorder) = term.result := by
  refine ⟨?_, ?_, ?_, ?_, ?_, value_append_postorder alphabet⟩
  · intro tokens
    by_cases empty : tokens = []
    · subst empty
      exact iff_of_false (fun evaluated => nomatch evaluated) fun balanced => balanced.1 rfl
    · rw [exists_value_iff_balanced empty, and_iff_right empty]
  · intro tokens nonempty fault
    rw [value_eq_error_iff alphabet tokens nonempty, run_eq_error_iff]
  · intro tokens i fault refused later
    exact value_append_of_firstRefused refused later
  · intro tokens final nonempty succeeds
    have size := size_eq_lead final succeeds
    obtain ⟨x, below, rfl, evaluated⟩ := value_of_run alphabet tokens final nonempty succeeds
    have length : Stack.size ⟨x :: below⟩ = below.length + 1 := List.length_cons
    exact ⟨size, by omega, x, below, rfl, evaluated⟩
  · intro tokens x evaluated
    obtain ⟨term, suffix, result⟩ := exists_suffix_of_value alphabet tokens x evaluated
    exact ⟨term, suffix, result, fun other otherSuffix =>
      other.eq_of_postorder_suffix term tokens otherSuffix suffix⟩

theorem value_of_digit_symbol_and_digit_operator :
    (∃ x below, run "-5" .empty [.number "7", .number "1", .symbol '2', .symbol '-'] =
        .ok ⟨x :: below⟩ ∧ (below.length + 1 : Int) =
          lead "-5" [.number "7", .number "1", .symbol '2', .symbol '-'] ∧
        ∃ term : Term "-5",
          term.postorder <:+ [.number "7", .number "1", .symbol '2', .symbol '-'] ∧
            term.result = .ok x) ∧
      value "-5" [.number "7", .number "8", .number "9", .number "5"] = .ok 0 ∧
      value "-5" [.number "1", .symbol '-'] = .error (.underflow .pop) ∧
      value "-5" ([.number "1", .symbol '-'] ++ [.symbol 'q']) = .error (.underflow .pop) := by
  obtain ⟨_, faults, stops, sizes, suffixes, terms⟩ := value_of_any_tokens "-5"
  refine ⟨?_, ?_, ?_⟩
  · have succeeds : run "-5" .empty [.number "7", .number "1", .symbol '2', .symbol '-'] =
        .ok ⟨[-1, 7]⟩ := by decide +kernel
    obtain ⟨size, _, x, below, same, evaluated⟩ := sizes _ _ (List.cons_ne_nil _ _) succeeds
    obtain ⟨term, suffix, result, _⟩ := suffixes _ x evaluated
    exact ⟨x, below, same ▸ succeeds, by rw [← size, same]; rfl, term, suffix, result⟩
  · have taken : run "-5" .empty [.number "7"] = .ok ⟨[7]⟩ := by decide +kernel
    have evaluated := terms [.number "7"] _ taken
      (.operation (.value (.number "8") (by decide)) (.value (.number "9") (by decide)) (.number "5")
        '5' (by decide))
    rw [show value "-5" [.number "7", .number "8", .number "9", .number "5"] = _ from evaluated]
    decide +kernel
  · have refused : FirstRefused "-5" [.number "1", .symbol '-'] 1 (.underflow .pop) := by
      refine ⟨.operator (.symbol '-') rfl (by decide) (by decide), ?_⟩
      intro j before other refused
      obtain rfl : j = 0 := by omega
      cases refused with
      | operator token here operator =>
        cases here
        exact absurd operator (by decide)
      | value token here _ unread =>
        cases here
        exact absurd unread (by decide +kernel)
    exact ⟨(faults _ (List.cons_ne_nil _ _) _).2 ⟨1, refused⟩, stops _ 1 _ refused [.symbol 'q']⟩

end Reckoner.Rpn
