import Mathlib.Data.List.Chain
import Reckoner.Token

/-! Alternating lists of tokens: a number, and then any number of times a symbol and a number.
Among lists without two numbers in a row they are those with the most numbers. -/

namespace Reckoner.Infix

/-- Numbers with exactly one symbol between any two neighbours. -/
inductive Alternating : List Token → Prop
  | single (text : String) : Alternating [.number text]
  | chain (text : String) (c : Char) {rest : List Token} (later : Alternating rest) :
    Alternating (.number text :: .symbol c :: rest)

theorem alternating_append_iff (front back : List Token) (c : Char) :
    Alternating (front ++ .symbol c :: back) ↔ Alternating front ∧ Alternating back := by
  constructor
  · intro whole
    generalize same : front ++ .symbol c :: back = tokens at whole
    induction whole generalizing front with
    | single text =>
      rcases front with - | ⟨first, front⟩
      · cases same
      · simp at same
    | chain text other later ih =>
      rcases front with - | ⟨first, - | ⟨second, front⟩⟩
      · cases same
      · cases same
        exact ⟨.single text, later⟩
      · simp only [List.cons_append, List.cons.injEq] at same
        obtain ⟨rfl, rfl, same⟩ := same
        obtain ⟨left, right⟩ := ih front same
        exact ⟨.chain text other left, right⟩
  · intro sides
    obtain ⟨left, right⟩ := sides
    induction left with
    | single text => exact .chain text c right
    | chain text other _ ih => exact .chain text other ih

theorem Alternating.eq_single {tokens : List Token} (alternating : Alternating tokens)
    (plain : ∀ c, Token.symbol c ∉ tokens) : ∃ text, tokens = [.number text] := by
  cases alternating with
  | single text => exact ⟨text, rfl⟩
  | chain text c later => exact absurd (by simp) (plain c)

def Sparse (tokens : List Token) : Prop :=
  tokens.IsChain fun a b => a.isNumber = true → b.isNumber = false

/-- At most every second token is a number, but for one more if the list alternates. -/
theorem Sparse.numbers_le_or_alternating (tokens : List Token) (sparse : Sparse tokens) :
    2 * tokens.countP Token.isNumber ≤ tokens.length ∨
      Alternating tokens ∧ 2 * tokens.countP Token.isNumber = tokens.length + 1 := by
  match tokens, sparse with
  | [], _ => simp
  | .symbol c :: rest, sparse =>
    have later := Sparse.numbers_le_or_alternating rest sparse.tail
    simp only [List.countP_cons, List.length_cons, Token.isNumber_symbol, Bool.false_eq_true, if_false]
    omega
  | [.number text], _ => exact Or.inr ⟨.single text, by simp⟩
  | .number text :: .symbol c :: rest, sparse =>
    simp only [List.countP_cons, List.length_cons, Token.isNumber_number, Token.isNumber_symbol,
      Bool.false_eq_true, if_true, if_false]
    rcases Sparse.numbers_le_or_alternating rest sparse.tail.tail with few | ⟨alternating, many⟩
    · omega
    · exact Or.inr ⟨.chain text c alternating, by omega⟩
  | .number text :: .number other :: rest, sparse =>
    have wrong : (Token.number other).isNumber = false := (List.isChain_cons_cons.1 sparse).1 rfl
    cases wrong

end Reckoner.Infix
