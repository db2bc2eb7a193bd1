import Reckoner.Calculator
import Reckoner.Proofs.Formula.Value
import Reckoner.Proofs.Number.Whole

/-! Exact arithmetic on chains of numerals. A chain is evaluated from left to right in whole numbers,
with a sum that is complete up to its last sign and a product that is being formed; the formula of the
chain grows in the same steps, and the number it evaluates to is the exact one. -/

namespace Reckoner

/-- A numeral and then symbols with numerals after them, in characters. -/
structure Chain where
  first : List Char
  rest : List (Char × List Char)

namespace Chain
open Binary64 Numeral

def text (chain : Chain) : String :=
  String.ofList (chain.first ++ chain.rest.flatMap fun item => item.1 :: item.2)

def numerals (chain : Chain) : List (List Char) :=
  chain.first :: chain.rest.map Prod.snd

/-- Whole numbers of at most this magnitude are numbers of the calculator. -/
def bounded? (n : Int) : Option Int :=
  if n.natAbs ≤ 2 ^ 53 then some n else none

def numeral? (digits : List Char) : Option Int :=
  bounded? (digitsValue digits)

/-- The result of a symbol on whole numbers, if it has one within the bound. A remainder has the sign
of its dividend. -/
def result? (symbol : Char) (left right : Int) : Option Int :=
  match symbol with
  | '+' => bounded? (left + right)
  | '-' => bounded? (left - right)
  | '×' => bounded? (left * right)
  | '%' => if right = 0 then none else bounded? (left.tmod right)
  | _ => none

def complete? : Option (Int × Char) → Int → Option Int
  | none, product => some product
  | some (sum, sign), product => result? sign sum product

/-- The value of a chain whose front has been evaluated: a sign completes the sum before it, any other
symbol goes on with the product. -/
def valueAfter? : Option (Int × Char) → Int → List (Char × List Char) → Option Int
  | sum, product, [] => complete? sum product
  | sum, product, (symbol, digits) :: rest => do
    let right ← numeral? digits
    if symbol = '+' ∨ symbol = '-' then
      let next ← complete? sum product
      valueAfter? (some (next, symbol)) right rest
    else
      let next ← result? symbol product right
      valueAfter? sum next rest

/-- The value of a chain from left to right, products before sums, in whole numbers that stay within
the bound. -/
def value? (chain : Chain) : Option Int := do
  let left ← numeral? chain.first
  valueAfter? none left chain.rest

theorem bounded?_eq_some_iff (m n : Int) : bounded? m = some n ↔ m = n ∧ n.natAbs ≤ 2 ^ 53 := by
  unfold bounded?
  split
  · next le =>
    rw [Option.some_inj]
    exact ⟨fun same => ⟨same, same ▸ le⟩, And.left⟩
  · next more =>
    simp only [reduceCtorEq, false_iff]
    rintro ⟨rfl, le⟩
    exact more le

def IsTight (symbol : Char) : Prop := symbol = '×' ∨ symbol = '%'

def IsSign (symbol : Char) : Prop := symbol = '+' ∨ symbol = '-'

theorem IsSign.not_isTight {symbol : Char} (sign : IsSign symbol) : ¬IsTight symbol := by
  rcases sign with rfl | rfl
  · unfold IsTight
    decide
  · unfold IsTight
    decide

theorem isSign_or_isTight_of_result? {symbol : Char} {left right result : Int}
    (applied : result? symbol left right = some result) : IsSign symbol ∨ IsTight symbol := by
  unfold result? at applied
  split at applied
  · exact Or.inl (Or.inl rfl)
  · exact Or.inl (Or.inr rfl)
  · exact Or.inr (Or.inl rfl)
  · exact Or.inr (Or.inr rfl)
  · cases applied

/-- The calculator computes what exact arithmetic does. In products the operands have no sign, so that
zero does not get one. -/
theorem represents_apply {symbol : Char} {x y : Float} {left right result : Int}
    (leftWhole : Represents x left) (rightWhole : Represents y right)
    (applied : result? symbol left right = some result)
    (signs : IsTight symbol → 0 ≤ left ∧ 0 ≤ right) :
    Represents ((Operator.ofSymbol symbol).apply x y) result := by
  unfold result? at applied
  split at applied
  · obtain ⟨rfl, le⟩ := (bounded?_eq_some_iff _ _).1 applied
    exact leftWhole.add rightWhole le
  · obtain ⟨rfl, le⟩ := (bounded?_eq_some_iff _ _).1 applied
    exact leftWhole.sub rightWhole le
  · obtain ⟨rfl, le⟩ := (bounded?_eq_some_iff _ _).1 applied
    obtain ⟨leftSign, rightSign⟩ := signs (Or.inl rfl)
    exact leftWhole.mul rightWhole leftSign rightSign le
  · split at applied
    · cases applied
    · next nonzero =>
      obtain ⟨rfl, le⟩ := (bounded?_eq_some_iff _ _).1 applied
      obtain ⟨leftSign, rightSign⟩ := signs (Or.inr rfl)
      exact leftWhole.remainder rightWhole leftSign (by omega) le
  · cases applied

theorem nonneg_of_result? {symbol : Char} {left right result : Int}
    (applied : result? symbol left right = some result) (tight : IsTight symbol) (leftSign : 0 ≤ left)
    (rightSign : 0 ≤ right) : 0 ≤ result := by
  rcases tight with rfl | rfl
  · obtain ⟨rfl, _⟩ := (bounded?_eq_some_iff _ _).1 applied
    exact Int.mul_nonneg leftSign rightSign
  · simp only [result?] at applied
    split at applied
    · cases applied
    · obtain ⟨rfl, _⟩ := (bounded?_eq_some_iff _ _).1 applied
      exact Int.tmod_nonneg right leftSign

end Chain
namespace Formula
open Chain Binary64 Numeral

theorem rank_of_isSign {c : Char} (sign : IsSign c) : Ranking.standard.rank c = 1 := by
  rcases sign with rfl | rfl
  · rfl
  · rfl

theorem rank_of_isTight {c : Char} (tight : IsTight c) : Ranking.standard.rank c = 2 := by
  rcases tight with rfl | rfl
  · rfl
  · rfl

theorem mem_standardAlphabet {c : Char} (known : IsSign c ∨ IsTight c) :
    c ∈ Calculator.standardAlphabet.toList := by
  rcases known with (rfl | rfl) | rfl | rfl
  · decide
  · decide
  · decide
  · decide

def Evaluates (formula : Formula) (n : Int) : Prop :=
  ∃ x, formula.value Calculator.standardAlphabet = .ok x ∧ Represents x n

theorem Evaluates.operation {left right : Formula} {symbol : Char} {a b n : Int}
    (leftValue : left.Evaluates a) (rightValue : right.Evaluates b)
    (applied : result? symbol a b = some n) (signs : IsTight symbol → 0 ≤ a ∧ 0 ≤ b) :
    (operation left symbol right).Evaluates n := by
  obtain ⟨x, leftValue, leftWhole⟩ := leftValue
  obtain ⟨y, rightValue, rightWhole⟩ := rightValue
  refine ⟨(Operator.ofSymbol symbol).apply x y, ?_, represents_apply leftWhole rightWhole applied signs⟩
  rw [value, leftValue, rightValue]
  exact if_pos (mem_standardAlphabet (isSign_or_isTight_of_result? applied))

structure IsProduct (formula : Formula) (n : Int) : Prop where
  ranked : formula.Ranked .standard
  symbols : ∀ c ∈ formula.symbols, IsTight c
  nonneg : 0 ≤ n
  value : formula.Evaluates n

structure IsSum (formula : Formula) (n : Int) : Prop where
  ranked : formula.Ranked .standard
  symbols : ∀ c ∈ formula.symbols, IsSign c ∨ IsTight c
  value : formula.Evaluates n

section Growth
variable {sum product : Formula} {symbol : Char} {a b n : Int}

theorem IsProduct.isSum (isProduct : product.IsProduct n) : product.IsSum n :=
  ⟨isProduct.ranked, fun c member => Or.inr (isProduct.symbols c member), isProduct.value⟩

theorem isProduct_numeral {digits : List Char} (nonempty : digits ≠ [])
    (all : ∀ c ∈ digits, c.isDigit = true) (within : numeral? digits = some n) :
    (numeral (String.ofList digits)).IsProduct n := by
  obtain ⟨rfl, le⟩ := (bounded?_eq_some_iff _ _).1 within
  obtain ⟨x, reads, whole⟩ := read?_digits digits nonempty all (by omega)
  refine ⟨trivial, by simp [symbols], by omega, x, ?_, whole⟩
  rw [Formula.value, reads]

theorem IsProduct.operation {text : String} (left : product.IsProduct a)
    (right : (numeral text).IsProduct b) (tight : IsTight symbol)
    (applied : result? symbol a b = some n) :
    (operation product symbol (numeral text)).IsProduct n where
  ranked := by
    refine ⟨?_, by simp [Formula.symbols], left.ranked, trivial⟩
    intro c member
    rw [rank_of_isTight tight, rank_of_isTight (left.symbols c member)]
  symbols := by
    intro c member
    rcases List.mem_append.mp member with inside | here
    · exact left.symbols c inside
    · exact List.mem_singleton.1 here ▸ tight
  nonneg := nonneg_of_result? applied tight left.nonneg right.nonneg
  value := left.value.operation right.value applied fun _ => ⟨left.nonneg, right.nonneg⟩

theorem IsSum.operation (left : sum.IsSum a) (right : product.IsProduct b) (sign : IsSign symbol)
    (applied : result? symbol a b = some n) : (operation sum symbol product).IsSum n where
  ranked := by
    refine ⟨?_, ?_, left.ranked, right.ranked⟩
    · intro c member
      rw [rank_of_isSign sign]
      rcases left.symbols c member with loose | tight
      · rw [rank_of_isSign loose]
      · rw [rank_of_isTight tight]
        decide
    · intro c member
      rw [rank_of_isSign sign, rank_of_isTight (right.symbols c member)]
      decide
  symbols := by
    intro c member
    rcases List.mem_append.mp member with inside | beyond
    · exact left.symbols c inside
    · rcases List.mem_cons.mp beyond with rfl | inside
      · exact Or.inl sign
      · exact Or.inr (right.symbols c inside)
  value := left.value.operation right.value applied fun tight => absurd tight sign.not_isTight

def complete : Option (Formula × Char) → Formula → Formula
  | none, product => product
  | some (sum, sign), product => operation sum sign product

def growAfter : Option (Formula × Char) → Formula → List (Char × List Char) → Formula
  | sum, product, [] => complete sum product
  | sum, product, (symbol, digits) :: rest =>
    if symbol = '+' ∨ symbol = '-' then
      growAfter (some (complete sum product, symbol)) (numeral (String.ofList digits)) rest
    else growAfter sum (operation product symbol (numeral (String.ofList digits))) rest

def Waits : Option (Formula × Char) → Option (Int × Char) → Prop :=
  Option.Rel fun formula value => formula.2 = value.2 ∧ IsSign value.2 ∧ formula.1.IsSum value.1

theorem isSum_complete {waiting : Option (Formula × Char)} {value : Option (Int × Char)}
    (waits : Waits waiting value) (isProduct : product.IsProduct b)
    (completed : complete? value b = some n) : (complete waiting product).IsSum n := by
  cases waits with
  | none =>
    cases completed
    exact isProduct.isSum
  | some parts =>
    obtain ⟨same, sign, isSum⟩ := parts
    rw [complete, same]
    exact isSum.operation isProduct sign completed

/-- As long as the exact value goes on, so does the formula with that value. -/
theorem isSum_growAfter {waiting : Option (Formula × Char)} {value : Option (Int × Char)}
    (rest : List (Char × List Char)) (waits : Waits waiting value) (isProduct : product.IsProduct b)
    (digits : ∀ item ∈ rest, item.2 ≠ [] ∧ ∀ c ∈ item.2, c.isDigit = true)
    (exact : valueAfter? value b rest = some n) : (growAfter waiting product rest).IsSum n := by
  induction rest generalizing waiting value product b with
  | nil => exact isSum_complete waits isProduct exact
  | cons item rest ih =>
    obtain ⟨symbol, numeral⟩ := item
    obtain ⟨nonempty, all⟩ := digits _ List.mem_cons_self
    have later := fun item member => digits item (List.mem_cons_of_mem _ member)
    simp only [valueAfter?, Option.bind_eq_bind, Option.bind_eq_some_iff] at exact
    obtain ⟨right, within, exact⟩ := exact
    have operand := isProduct_numeral nonempty all within
    rw [growAfter]
    split at exact
    · next sign =>
      obtain ⟨next, completed, exact⟩ := Option.bind_eq_some_iff.1 exact
      rw [if_pos sign]
      have waiting : Waits (some (complete waiting product, symbol)) (some (next, symbol)) :=
        .some ⟨rfl, sign, isSum_complete waits isProduct completed⟩
      exact ih waiting operand later exact
    · next loose =>
      obtain ⟨next, applied, exact⟩ := Option.bind_eq_some_iff.1 exact
      rw [if_neg loose]
      have tight := (isSign_or_isTight_of_result? applied).resolve_left loose
      exact ih waits (isProduct.operation operand tight applied) later exact

theorem inorder_growAfter (waiting : Option (Formula × Char)) (rest : List (Char × List Char)) :
    (growAfter waiting product rest).inorder = (complete waiting product).inorder ++
      rest.flatMap fun item => [.symbol item.1, .number (String.ofList item.2)] := by
  induction rest generalizing waiting product with
  | nil => simp [growAfter]
  | cons item rest ih =>
    rw [growAfter]
    split
    · rw [ih]
      simp [complete, inorder]
    · rw [ih]
      cases waiting with
      | none => simp [complete, inorder]
      | some parts => simp [complete, inorder]

end Growth

end Formula
end Reckoner
