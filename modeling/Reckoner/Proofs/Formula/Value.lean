import Reckoner.Proofs.Formula.Traversal
import Reckoner.Proofs.Rpn.Step

/-! Values of formulas by their structure. Running the post-order of a formula puts its value on
the stack, or stops with the fault of its first token that is refused; and cutting the in-order
of a ranked formula gives the same value. -/

namespace Reckoner

namespace Token

def isRefused (alphabet : String) : Token → Bool
  | .number text => (Numeral.read? text).isNone
  | .symbol c => c ∉ alphabet.toList

/-- No number is taken for an operator, and no symbol for a number. -/
def KeepsKind (alphabet : String) : Token → Prop
  | .number text => (number text).operator? alphabet = none
  | .symbol c => Numeral.read? c.toString = none

end Token

namespace Formula
open Rpn Infix

def value (alphabet : String) : Formula → Except Fault Float
  | .numeral text =>
    match Numeral.read? text with
    | some x => .ok x
    | none => .error (.invalidNumber text)
  | .operation left symbol right =>
    match left.value alphabet, right.value alphabet with
    | .error fault, _ => .error fault
    | .ok _, .error fault => .error fault
    | .ok x, .ok y =>
      if symbol ∈ alphabet.toList then .ok ((Operator.ofSymbol symbol).apply x y)
      else .error (.invalidNumber symbol.toString)

variable (alphabet : String)

theorem run_postorder (formula : Formula) (values : Stack Float) (rest : List Token)
    (kinds : ∀ token ∈ formula.inorder, token.KeepsKind alphabet) :
    run alphabet values (formula.postorder ++ rest) =
      (formula.value alphabet).bind fun x => run alphabet (values.push x) rest := by
  induction formula generalizing values rest with
  | numeral text =>
    have plain : (Token.number text).operator? alphabet = none :=
      kinds (.number text) (by simp [inorder])
    simp only [postorder, List.singleton_append, run, step, plain, value, Token.text]
    cases Numeral.read? text with
    | none => rfl
    | some x => rfl
  | operation left symbol right leftIH rightIH =>
    have leftKinds : ∀ token ∈ left.inorder, token.KeepsKind alphabet := fun token member =>
      kinds token (by simp [inorder, member])
    have rightKinds : ∀ token ∈ right.inorder, token.KeepsKind alphabet := fun token member =>
      kinds token (by simp [inorder, member])
    have unread : Numeral.read? (Token.symbol symbol).text = none :=
      kinds (.symbol symbol) (by simp [inorder])
    simp only [postorder, List.append_assoc, List.singleton_append, value]
    rw [leftIH _ _ leftKinds]
    cases left.value alphabet with
    | error fault => rfl
    | ok x =>
      rw [Except.bind, rightIH _ _ rightKinds]
      cases right.value alphabet with
      | error fault => rfl
      | ok y =>
        simp only [Except.bind, run, step, Token.operator?_symbol, unread, Stack.push]
        by_cases known : symbol ∈ alphabet.toList
        · simp only [known, if_true]
        · simp only [known, if_false]
          rfl

theorem value_of_find? (formula : Formula) :
    match formula.postorder.find? (Token.isRefused alphabet) with
    | some token => formula.value alphabet = .error (.invalidNumber token.text)
    | none => ∃ x, formula.value alphabet = .ok x := by
  induction formula with
  | numeral text =>
    rcases Option.eq_none_or_eq_some (Numeral.read? text) with unread | ⟨x, reads⟩
    · simp [postorder, value, Token.isRefused, Token.text, unread]
    · simp [postorder, value, Token.isRefused, reads]
  | operation left symbol right leftIH rightIH =>
    simp only [postorder, List.find?_append, List.find?_singleton]
    cases leftFound : left.postorder.find? (Token.isRefused alphabet) with
    | some token =>
      rw [leftFound] at leftIH
      simp only [Option.some_or, value, leftIH]
    | none =>
      rw [leftFound] at leftIH
      obtain ⟨x, leftValue⟩ := leftIH
      cases rightFound : right.postorder.find? (Token.isRefused alphabet) with
      | some token =>
        rw [rightFound] at rightIH
        simp only [Option.none_or, Option.some_or, value, leftValue, rightIH]
      | none =>
        rw [rightFound] at rightIH
        obtain ⟨y, rightValue⟩ := rightIH
        by_cases known : symbol ∈ alphabet.toList
        · simp [value, leftValue, rightValue, known, Token.isRefused]
        · simp [value, leftValue, rightValue, known, Token.isRefused, Token.text]

theorem value_eq_error_iff (formula : Formula) (fault : Fault) :
    formula.value alphabet = .error fault ↔
      ∃ token, formula.postorder.find? (Token.isRefused alphabet) = some token ∧
        fault = .invalidNumber token.text := by
  have value := value_of_find? alphabet formula
  cases found : formula.postorder.find? (Token.isRefused alphabet) with
  | some token =>
    rw [found] at value
    simp [value, eq_comm]
  | none =>
    rw [found] at value
    obtain ⟨x, value⟩ := value
    simp [value]

theorem exists_value (formula : Formula)
    (accepted : ∀ token ∈ formula.inorder, token.isRefused alphabet = false) :
    ∃ x, formula.value alphabet = .ok x := by
  have value := value_of_find? alphabet formula
  have none : formula.postorder.find? (Token.isRefused alphabet) = none := by
    rw [List.find?_eq_none]
    intro token member
    simp [accepted token (formula.postorder_perm.mem_iff.1 member)]
  rwa [none] at value

/-- With all its symbols in the alphabet, a ranked formula has the value of its tokens by cuts. -/
theorem value?_inorder (ranking : Ranking) (formula : Formula) (ranked : formula.Ranked ranking)
    (known : ∀ c ∈ formula.symbols, c ∈ alphabet.toList) :
    value? ranking formula.inorder = (formula.value alphabet).toOption := by
  induction formula with
  | numeral text =>
    rw [inorder, value?_single, value]
    cases Numeral.read? text with
    | none => rfl
    | some x => rfl
  | operation left symbol right leftIH rightIH =>
    rw [inorder, value?_cut ranking _ _ symbol ranked.isCut]
    obtain ⟨_, _, leftRanked, rightRanked⟩ := ranked
    have here : symbol ∈ alphabet.toList := known symbol (by simp [symbols])
    rw [leftIH leftRanked fun c member => known c (by simp [symbols, member]),
      rightIH rightRanked fun c member => known c (by simp [symbols, member]), value]
    cases left.value alphabet with
    | error fault => rfl
    | ok x =>
      cases right.value alphabet with
      | error fault => rfl
      | ok y => simp [here, Except.toOption]

end Formula
end Reckoner
