import Reckoner.Proofs.Calculator.Evaluation
import Reckoner.Proofs.Display.Whole
import Reckoner.Proofs.Formula.Exact

/-! Whole numbers through the calculator. A chain of numerals is scanned to the tokens of the formula
that grows with its exact value, so as long as that value stays within the bound, the calculator
computes it without rounding and without a sign on zero. -/

namespace Reckoner

namespace Chain
open Token Text

def tokens (chain : Chain) : List Token :=
  .number (String.ofList chain.first) ::
    chain.rest.flatMap fun item => [.symbol item.1, .number (String.ofList item.2)]

def formula (chain : Chain) : Formula :=
  Formula.growAfter none (.numeral (String.ofList chain.first)) chain.rest

theorem inorder_formula (chain : Chain) : chain.formula.inorder = chain.tokens :=
  Formula.inorder_growAfter none chain.rest

theorem symbols_of_valueAfter? (sum : Option (Int × Char)) (product n : Int)
    (rest : List (Char × List Char)) (exact : valueAfter? sum product rest = some n) :
    ∀ item ∈ rest, IsSign item.1 ∨ IsTight item.1 := by
  induction rest generalizing sum product with
  | nil => simp
  | cons item rest ih =>
    obtain ⟨symbol, digits⟩ := item
    simp only [valueAfter?, Option.bind_eq_bind, Option.bind_eq_some_iff] at exact
    obtain ⟨right, _, exact⟩ := exact
    rw [List.forall_mem_cons]
    split at exact
    · next sign =>
      obtain ⟨next, _, exact⟩ := Option.bind_eq_some_iff.1 exact
      exact ⟨Or.inl sign, ih _ _ exact⟩
    · obtain ⟨next, applied, exact⟩ := Option.bind_eq_some_iff.1 exact
      exact ⟨isSign_or_isTight_of_result? applied, ih _ _ exact⟩

theorem isNumeralChar_of_known {c : Char} (known : IsSign c ∨ IsTight c) :
    isNumeralChar c = false := by
  rcases known with (rfl | rfl) | rfl | rfl
  · decide
  · decide
  · decide
  · decide

theorem scanAfter_text (first : List Char) (rest : List (Char × List Char))
    (numerals : ∀ digits ∈ first :: rest.map Prod.snd,
      digits ≠ [] ∧ ∀ c ∈ digits, c.isDigit = true)
    (known : ∀ item ∈ rest, IsSign item.1 ∨ IsTight item.1) :
    scanAfter [] (first ++ rest.flatMap fun item => item.1 :: item.2) =
      (Chain.mk first rest).tokens := by
  induction rest generalizing first with
  | nil =>
    obtain ⟨nonempty, all⟩ := numerals first List.mem_cons_self
    rw [List.flatMap_nil, List.append_nil,
      scanAfter_number first nonempty fun c member => isNumeralChar_of_isDigit c (all c member)]
    rfl
  | cons item rest ih =>
    obtain ⟨symbol, digits⟩ := item
    obtain ⟨nonempty, all⟩ := numerals first List.mem_cons_self
    obtain ⟨here, later⟩ := List.forall_mem_cons.1 known
    rw [List.flatMap_cons, List.cons_append,
      scanAfter_append_symbol [] first _ symbol (isNumeralChar_of_known here),
      scanAfter_number first nonempty fun c member => isNumeralChar_of_isDigit c (all c member),
      ih digits (fun other member => numerals other (List.mem_cons_of_mem first member)) later]
    rfl

theorem text_ne_operator (chain : Chain)
    (numerals : ∀ digits ∈ chain.numerals, digits ≠ [] ∧ ∀ c ∈ digits, c.isDigit = true)
    (text : String) (member : number text ∈ chain.tokens) :
    ∀ c ∈ Calculator.standardAlphabet.toList, text.toList ≠ [c] := by
  have plain : ∀ digits ∈ chain.numerals, ∀ c ∈ Calculator.standardAlphabet.toList,
      (String.ofList digits).toList ≠ [c] := by
    intro digits inside c operator only
    rw [String.toList_ofList] at only
    have digit := (numerals digits inside).2 c (only ▸ List.mem_singleton.2 rfl)
    have none : ∀ c ∈ Calculator.standardAlphabet.toList, c.isDigit = false := by
      simp [Calculator.standardAlphabet]
    exact absurd digit (ne_true_of_eq_false (none c operator))
  rcases List.mem_cons.mp member with same | beyond
  · cases same
    exact plain chain.first List.mem_cons_self
  · obtain ⟨item, inside, here⟩ := List.mem_flatMap.1 beyond
    have same : text = String.ofList item.2 := by simpa using here
    rw [same]
    exact plain item.2 (List.mem_cons_of_mem _ (List.mem_map_of_mem inside))

end Chain

namespace Calculator
open Chain Token Binary64

/-- A chain of digits whose numerals and intermediate results are whole numbers of magnitude at most
`2 ^ 53` is evaluated to exactly its value, with no sign on zero, and a value below `10 ^ 7` is shown
by its decimal digits with a point and a zero. -/
theorem evaluate_chain (chain : Chain) (n : Int)
    (numerals : ∀ digits ∈ chain.numerals, digits ≠ [] ∧ ∀ c ∈ digits, c.isDigit = true)
    (exact : chain.value? = some n) :
    (∃ x, standard.evaluate chain.text = .ok (some x) ∧ Represents x n) ∧
      (n.natAbs < 10 ^ 7 → standard.calculate chain.text = .ok (toString n ++ ".0")) := by
  rw [Chain.value?, Option.bind_eq_bind, Option.bind_eq_some_iff] at exact
  obtain ⟨left, within, exact⟩ := exact
  have scanned : scan chain.text = chain.tokens := by
    rw [scan, Chain.text, String.toList_ofList]
    exact scanAfter_text _ _ numerals (symbols_of_valueAfter? _ _ _ _ exact)
  obtain ⟨nonempty, all⟩ := numerals chain.first List.mem_cons_self
  have isSum : chain.formula.IsSum n := by
    refine Formula.isSum_growAfter chain.rest .none (Formula.isProduct_numeral nonempty all within)
      ?_ exact
    intro item member
    exact numerals item.2 (List.mem_cons_of_mem _ (List.mem_map_of_mem member))
  obtain ⟨_, result⟩ := standard.evaluate_of_inorder chain.text chain.formula
    (chain.inorder_formula.trans scanned.symm) isSum.ranked
    (scanned ▸ chain.text_ne_operator numerals)
  obtain ⟨x, value, whole⟩ := isSum.value
  have evaluated : standard.evaluate chain.text = .ok (some x) := by
    rw [result]
    change (chain.formula.value standardAlphabet).map some = _
    rw [value]
    rfl
  refine ⟨⟨x, evaluated, whole⟩, ?_⟩
  intro small
  rw [calculate_of_evaluate standard chain.text x evaluated, Display.text_of_represents x n whole small]

theorem evaluate_chain_down_to_minus_nine :
    (∃ x, standard.evaluate "12-7×3%4-20" = .ok (some x) ∧ Represents x (-9)) ∧
      standard.calculate "12-7×3%4-20" = .ok "-9.0" := by
  obtain ⟨chain, parts⟩ : ∃ chain : Chain, chain =
      ⟨['1', '2'], [('-', ['7']), ('×', ['3']), ('%', ['4']), ('-', ['2', '0'])]⟩ := ⟨_, rfl⟩
  have expression : chain.text = "12-7×3%4-20" := by
    rw [parts]
    rfl
  have numerals : ∀ digits ∈ chain.numerals, digits ≠ [] ∧ ∀ c ∈ digits, c.isDigit = true := by
    simp [parts, Chain.numerals]
  have exact : chain.value? = some (-9) := by
    rw [parts]
    decide
  obtain ⟨evaluated, shown⟩ := evaluate_chain chain (-9) numerals exact
  rw [expression] at evaluated shown
  exact ⟨evaluated, shown (by decide)⟩

end Calculator
end Reckoner
