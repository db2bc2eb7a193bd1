import Mathlib.Data.List.Basic
import Reckoner.Calculator
import Reckoner.Proofs.Formula.Order
import Reckoner.Proofs.Formula.Value
import Reckoner.Proofs.Number.Plain
import Reckoner.Proofs.Token.Canonical

/-! Evaluation of expressions. An alternating expression is evaluated as its ranked formula, and an
expression that is evaluated at all alternates: symbols are never numbers, and there are too few
numbers for a token more or less. -/

namespace Reckoner.Token

/-- A number that can be read and is no operator, or a symbol of the alphabet. -/
def Fits (alphabet : String) : Token → Prop
  | .number text =>
    (Numeral.read? text).isSome = true ∧ ∀ c ∈ alphabet.toList, text.toList ≠ [c]
  | .symbol c => c ∈ alphabet.toList

theorem Fits.isRefused {alphabet : String} {token : Token} (fits : token.Fits alphabet) :
    token.isRefused alphabet = false := by
  cases token with
  | number text =>
    obtain ⟨reads, _⟩ := fits
    obtain ⟨x, reads⟩ := Option.isSome_iff_exists.1 reads
    rw [Token.isRefused, reads]
    rfl
  | symbol c =>
    exact decide_eq_false fun absent => absent fits

theorem imp_of_countP_le (p q : Token → Bool) (tokens : List Token)
    (imp : ∀ token ∈ tokens, p token = true → q token = true)
    (le : tokens.countP q ≤ tokens.countP p) : ∀ token ∈ tokens, q token = true → p token = true := by
  induction tokens with
  | nil => simp
  | cons first rest ih =>
    have later := fun token member => imp token (List.mem_cons_of_mem first member)
    have fewer := List.countP_mono_left later
    have here := imp first List.mem_cons_self
    rw [List.countP_cons, List.countP_cons] at le
    have restLe : rest.countP q ≤ rest.countP p := by
      by_cases holds : p first = true
      · rw [if_pos holds, if_pos (here holds)] at le
        omega
      · rw [if_neg holds] at le
        omega
    intro token member
    rcases List.mem_cons.mp member with rfl | beyond
    · intro holds
      by_contra fails
      rw [if_pos holds, if_neg fails] at le
      omega
    · exact ih later restLe token beyond

end Reckoner.Token

namespace Reckoner.Calculator
open Infix Rpn Token

variable (calculator : Calculator) (expression : String)

theorem rpn_perm : (calculator.rpn expression).Perm (scan expression) :=
  ofInfix_perm calculator.ranking (scan expression)

theorem isEmpty_rpn : (calculator.rpn expression).isEmpty = true ↔ expression = "" := by
  rw [List.isEmpty_iff, ← scan_eq_nil_iff]
  have same := calculator.rpn_perm expression
  exact ⟨fun empty => (empty ▸ same).nil_eq.symm, fun empty => (empty ▸ same).eq_nil⟩

theorem rpn_ne_nil (nonempty : expression ≠ "") : calculator.rpn expression ≠ [] := by
  intro empty
  exact nonempty ((calculator.isEmpty_rpn expression).1 (List.isEmpty_iff.2 empty))

theorem evaluate_empty : calculator.evaluate "" = .ok none := by
  unfold evaluate
  exact if_pos ((calculator.isEmpty_rpn "").2 rfl)

theorem evaluate_of_ne_empty (nonempty : expression ≠ "") :
    calculator.evaluate expression =
      (Rpn.value calculator.alphabet (calculator.rpn expression)).map some := by
  rw [ne_eq, ← isEmpty_rpn calculator] at nonempty
  unfold evaluate
  exact if_neg nonempty

theorem evaluate_eq_none_iff : calculator.evaluate expression = .ok none ↔ expression = "" := by
  constructor
  · intro result
    by_contra nonempty
    rw [evaluate_of_ne_empty calculator expression nonempty] at result
    cases value : Rpn.value calculator.alphabet (calculator.rpn expression) with
    | ok x => simp [value, Except.map] at result
    | error fault => simp [value, Except.map] at result
  · intro empty
    rw [empty, evaluate_empty]

theorem evaluate_eq_some_iff (x : Float) :
    calculator.evaluate expression = .ok (some x) ↔
      Rpn.value calculator.alphabet (calculator.rpn expression) = .ok x := by
  by_cases empty : expression = ""
  · rw [empty, evaluate_empty, List.isEmpty_iff.1 ((calculator.isEmpty_rpn "").2 rfl)]
    simp [Rpn.value, run, Stack.empty]
  · rw [evaluate_of_ne_empty calculator expression empty]
    cases Rpn.value calculator.alphabet (calculator.rpn expression) with
    | ok y => simp [Except.map]
    | error fault => simp [Except.map]

theorem evaluate_eq_error_iff (fault : Fault) :
    calculator.evaluate expression = .error fault ↔
      expression ≠ "" ∧ Rpn.value calculator.alphabet (calculator.rpn expression) = .error fault := by
  by_cases empty : expression = ""
  · simp [empty, evaluate_empty]
  · rw [evaluate_of_ne_empty calculator expression empty, and_iff_right empty]
    cases Rpn.value calculator.alphabet (calculator.rpn expression) with
    | ok x => simp [Except.map]
    | error first => simp [Except.map]

theorem keepsKind_of_scan
    (plain : ∀ text, number text ∈ scan expression → ∀ c ∈ calculator.alphabet.toList, text.toList ≠ [c]) :
    ∀ token ∈ scan expression, token.KeepsKind calculator.alphabet := by
  intro token member
  cases token with
  | number text => exact (operator?_number_eq_none_iff _ text).2 (plain text member)
  | symbol c => exact Numeral.read?_toString c ((canonical_scan expression).symbols c member)

theorem evaluate_of_inorder (formula : Formula) (inorder : formula.inorder = scan expression)
    (ranked : formula.Ranked calculator.ranking)
    (plain : ∀ text, number text ∈ scan expression → ∀ c ∈ calculator.alphabet.toList, text.toList ≠ [c]) :
    calculator.rpn expression = formula.postorder ∧
      calculator.evaluate expression = (formula.value calculator.alphabet).map some := by
  have order : calculator.rpn expression = formula.postorder := by
    rw [rpn, ← inorder, ofInfix_inorder calculator.ranking formula ranked]
  refine ⟨order, ?_⟩
  have kinds := calculator.keepsKind_of_scan expression plain
  have result := formula.run_postorder calculator.alphabet .empty [] (inorder ▸ kinds)
  have nonempty : expression ≠ "" := by
    rw [ne_eq, ← scan_eq_nil_iff, ← inorder]
    exact formula.inorder_ne_nil
  rw [List.append_nil] at result
  rw [evaluate_of_ne_empty calculator expression nonempty, order, Rpn.value, result]
  cases formula.value calculator.alphabet with
  | ok x => rfl
  | error fault => rfl

theorem exists_formula (alternating : Alternating (scan expression))
    (plain : ∀ text, number text ∈ scan expression → ∀ c ∈ calculator.alphabet.toList, text.toList ≠ [c]) :
    ∃ formula : Formula, formula.inorder = scan expression ∧ formula.Ranked calculator.ranking ∧
      calculator.rpn expression = formula.postorder ∧
      calculator.evaluate expression = (formula.value calculator.alphabet).map some := by
  obtain ⟨formula, inorder, ranked⟩ :=
    Formula.exists_ranked calculator.ranking (scan expression) alternating
  exact ⟨formula, inorder, ranked, calculator.evaluate_of_inorder expression formula inorder ranked plain⟩

theorem isNumber_of_run (final : Stack Float)
    (succeeds : run calculator.alphabet .empty (calculator.rpn expression) = .ok final) :
    ∀ token ∈ scan expression, token.isOperator calculator.alphabet = false → token.isNumber = true := by
  intro token member value
  cases token with
  | number text => rfl
  | symbol c =>
    have inOrder := (calculator.rpn_perm expression).mem_iff.2 member
    have reads := readable_of_run calculator.alphabet .empty final _ succeeds _ inOrder value
    have unread := Numeral.read?_toString c ((canonical_scan expression).symbols c member)
    rw [show (symbol c).text = c.toString from rfl, unread] at reads
    cases reads

theorem fits_of_run (final : Stack Float)
    (succeeds : run calculator.alphabet .empty (calculator.rpn expression) = .ok final)
    (plain : ∀ token ∈ scan expression, token.isNumber = true →
      token.isOperator calculator.alphabet = false) :
    ∀ token ∈ scan expression, token.Fits calculator.alphabet := by
  intro token member
  cases token with
  | number text =>
    have value := plain (number text) member rfl
    have inOrder := (calculator.rpn_perm expression).mem_iff.2 member
    have reads := readable_of_run calculator.alphabet .empty final _ succeeds _ inOrder value
    rw [text_number] at reads
    exact ⟨reads, (isOperator_number_iff _ text).1 value⟩
  | symbol c =>
    apply (isOperator_symbol_iff _ c).1
    by_contra value
    rw [Bool.not_eq_true] at value
    exact absurd (calculator.isNumber_of_run expression final succeeds _ member value) Bool.false_ne_true

/-- A run that leaves a number leaves no other, and every token is what it looks like. -/
theorem run_rpn (final : Stack Float)
    (succeeds : run calculator.alphabet .empty (calculator.rpn expression) = .ok final)
    (nonempty : 0 < final.size) :
    final.size = 1 ∧ Alternating (scan expression) ∧
      ∀ token ∈ scan expression, token.Fits calculator.alphabet := by
  have same := calculator.rpn_perm expression
  have size := size_of_run calculator.alphabet .empty final _ succeeds
  rw [same.countP_eq, same.length_eq, show (Stack.empty : Stack Float).size = 0 from rfl] at size
  have split := List.length_eq_countP_add_countP (isOperator calculator.alphabet) (l := scan expression)
  simp only [Bool.not_eq_true, Bool.decide_eq_false] at split
  have values : ∀ token ∈ scan expression,
      (!token.isOperator calculator.alphabet) = true → token.isNumber = true := by
    intro token member value
    rw [Bool.not_eq_true'] at value
    exact calculator.isNumber_of_run expression final succeeds token member value
  have fewer := List.countP_mono_left values
  rcases Sparse.numbers_le_or_alternating _ (canonical_scan expression).sparse with few | ⟨alternating, many⟩
  · omega
  · refine ⟨by omega, alternating, ?_⟩
    apply calculator.fits_of_run expression final succeeds
    intro token member number
    have kept := imp_of_countP_le _ _ (scan expression) values (by omega) token member number
    rwa [Bool.not_eq_true'] at kept

theorem value_rpn_eq_ok_iff (x : Float) :
    Rpn.value calculator.alphabet (calculator.rpn expression) = .ok x ↔
      Rpn.run calculator.alphabet .empty (calculator.rpn expression) = .ok ⟨[x]⟩ := by
  rw [value_eq_ok_iff]
  constructor
  · intro leaves
    obtain ⟨below, succeeds⟩ := leaves
    have size := (calculator.run_rpn expression _ succeeds (Nat.succ_pos below.length)).1
    have none : below = [] := by
      apply List.eq_nil_of_length_eq_zero
      simpa [Stack.size] using size
    rw [succeeds, none]
  · intro succeeds
    exact ⟨[], succeeds⟩

theorem exists_value_iff :
    (∃ x, calculator.evaluate expression = .ok (some x)) ↔
      Alternating (scan expression) ∧ ∀ token ∈ scan expression, token.Fits calculator.alphabet := by
  constructor
  · intro accepted
    obtain ⟨x, result⟩ := accepted
    rw [evaluate_eq_some_iff, value_eq_ok_iff] at result
    obtain ⟨below, succeeds⟩ := result
    have size : 0 < (⟨x :: below⟩ : Stack Float).size := Nat.succ_pos below.length
    exact (calculator.run_rpn expression ⟨x :: below⟩ succeeds size).2
  · intro fitting
    obtain ⟨alternating, fits⟩ := fitting
    obtain ⟨formula, inorder, _, _, result⟩ := calculator.exists_formula expression alternating
      fun text member => (fits (number text) member).2
    obtain ⟨x, value⟩ := formula.exists_value calculator.alphabet fun token member =>
      (fits token (inorder ▸ member)).isRefused
    exact ⟨x, by rw [result, value]; rfl⟩

theorem evaluate_numeral (text : String) (nonempty : text ≠ "")
    (numeral : ∀ c ∈ text.toList, Text.isNumeralChar c = true)
    (plain : ∀ c ∈ calculator.alphabet.toList, text.toList ≠ [c]) (x : Float)
    (reads : Numeral.read? text = some x) : calculator.evaluate text = .ok (some x) := by
  have scanned : scan text = [number text] := by
    rw [scan, scanAfter_number text.toList (mt String.toList_eq_nil_iff.1 nonempty) numeral,
      String.ofList_toList]
  have value : step calculator.alphabet .empty (number text) = .ok ⟨[x]⟩ := by
    rw [step_eq_ok_iff]
    exact Or.inr ⟨(operator?_number_eq_none_iff _ text).2 plain, x, reads, rfl⟩
  rw [evaluate_eq_some_iff, value_rpn_eq_ok_iff, rpn, scanned]
  change run calculator.alphabet .empty [number text] = _
  rw [run, value]
  rfl

theorem calculate_of_evaluate (x : Float) (result : calculator.evaluate expression = .ok (some x)) :
    calculator.calculate expression = .ok (Display.text x) := by
  rw [calculate, result]
  rfl

theorem calculate_of_fault (fault : Fault) (fails : calculator.evaluate expression = .error fault) :
    calculator.calculate expression = .error fault := by
  rw [calculate, fails]
  rfl

end Reckoner.Calculator
