import Reckoner.Calculator.Transcript
import Reckoner.Proofs.Calculator.Evaluation

/-! The accepted language: numerals with one operator between any two neighbours, whatever the
ranking. Everything else but the empty expression is a fault, and no number is ever left over. -/

namespace Reckoner.Calculator
open Infix Token Text

/-- A plain numeral that is not by itself an operator of the alphabet. -/
def IsOperand (alphabet : String) (cs : List Char) : Prop :=
  Numeral.IsPlain cs ∧ ∀ c ∈ alphabet.toList, cs ≠ [c]

/-- Operands with one character of the alphabet between any two neighbours. As that character belongs
to no numeral, every operand is a longest run of numeral characters. -/
inductive Sentence (alphabet : String) : List Char → Prop
  | single {numeral : List Char} (operand : IsOperand alphabet numeral) : Sentence alphabet numeral
  | chain {numeral : List Char} (operand : IsOperand alphabet numeral) {c : Char}
    (known : c ∈ alphabet.toList) (other : isNumeralChar c = false) {rest : List Char}
    (later : Sentence alphabet rest) : Sentence alphabet (numeral ++ c :: rest)

theorem Sentence.exists_head {alphabet : String} {cs : List Char} (sentence : Sentence alphabet cs) :
    ∃ c rest, cs = c :: rest ∧ isNumeralChar c = true := by
  have first : ∀ numeral, IsOperand alphabet numeral →
      ∃ c rest, numeral = c :: rest ∧ isNumeralChar c = true := by
    intro numeral operand
    obtain ⟨_, member, _⟩ := operand.1.2.2
    obtain ⟨c, rest, rfl⟩ := List.exists_cons_of_ne_nil (List.ne_nil_of_mem member)
    exact ⟨c, rest, rfl, operand.1.numeral c List.mem_cons_self⟩
  cases sentence with
  | single operand => exact first _ operand
  | chain operand _ _ _ =>
    obtain ⟨c, rest, rfl, numeral⟩ := first _ operand
    exact ⟨c, _, rfl, numeral⟩

theorem Sentence.mem_alphabet {alphabet : String} {cs : List Char} (sentence : Sentence alphabet cs) :
    ∀ c ∈ cs, isNumeralChar c = false → c ∈ alphabet.toList := by
  have inside : ∀ numeral, IsOperand alphabet numeral → ∀ c ∈ numeral, isNumeralChar c = false →
      c ∈ alphabet.toList := by
    intro numeral operand c member other
    exact absurd (other.symm.trans (operand.1.numeral c member)) Bool.false_ne_true
  induction sentence with
  | single operand => exact inside _ operand
  | chain operand known _ _ ih =>
    intro c member other
    rcases List.mem_append.mp member with early | late
    · exact inside _ operand c early other
    · rcases List.mem_cons.mp late with rfl | beyond
      · exact known
      · exact ih c beyond other

theorem fits_number_iff (alphabet text : String) (numeral : ∀ c ∈ text.toList, isNumeralChar c = true) :
    (number text).Fits alphabet ↔ IsOperand alphabet text.toList := by
  rw [IsOperand, ← Numeral.isSome_readChars?_iff text.toList numeral]
  rfl

theorem sentence_of_alternating (alphabet : String) (tokens : List Token)
    (alternating : Alternating tokens) (canonical : Canonical tokens)
    (fits : ∀ token ∈ tokens, token.Fits alphabet) :
    Sentence alphabet (tokens.flatMap fun token => token.text.toList) := by
  induction alternating with
  | single text =>
    have numeral := (canonical.numbers text List.mem_cons_self).2
    have operand := (fits_number_iff alphabet text numeral).1 (fits _ List.mem_cons_self)
    simpa using Sentence.single operand
  | chain text c _ ih =>
    have numeral := (canonical.numbers text List.mem_cons_self).2
    have operand := (fits_number_iff alphabet text numeral).1 (fits _ List.mem_cons_self)
    have known : c ∈ alphabet.toList := fits (symbol c) (by simp)
    have later := ih
      ⟨fun other member => canonical.numbers other (by simp [member]),
        fun d member => canonical.symbols d (by simp [member]), canonical.sparse.tail.tail⟩
      fun token member => fits token (by simp [member])
    simpa using Sentence.chain operand known (canonical.symbols c (by simp)) later

theorem alternating_of_sentence (alphabet : String) (cs : List Char) (sentence : Sentence alphabet cs) :
    Alternating (scanAfter [] cs) ∧ ∀ token ∈ scanAfter [] cs, token.Fits alphabet := by
  have numberFits : ∀ numeral, IsOperand alphabet numeral → scanAfter [] numeral =
      [number (String.ofList numeral)] ∧ (number (String.ofList numeral)).Fits alphabet := by
    intro numeral operand
    obtain ⟨c, member, _⟩ := operand.1.2.2
    refine ⟨scanAfter_number numeral (List.ne_nil_of_mem member) operand.1.numeral, ?_⟩
    rw [fits_number_iff]
    · rwa [String.toList_ofList]
    · rw [String.toList_ofList]
      exact operand.1.numeral
  induction sentence with
  | single operand =>
    obtain ⟨scanned, fits⟩ := numberFits _ operand
    rw [scanned]
    refine ⟨.single _, ?_⟩
    intro token member
    cases List.mem_singleton.1 member
    exact fits
  | chain operand known other _ ih =>
    obtain ⟨scanned, fits⟩ := numberFits _ operand
    obtain ⟨alternating, restFits⟩ := ih
    rw [scanAfter_append_symbol [] _ _ _ other, scanned]
    refine ⟨.chain _ _ alternating, ?_⟩
    intro token member
    rcases List.mem_cons.mp member with rfl | inside
    · exact fits
    · rcases List.mem_cons.mp inside with rfl | beyond
      · exact known
      · exact restFits token beyond

theorem exists_value_iff_sentence (calculator : Calculator) (expression : String) :
    (∃ x, calculator.evaluate expression = .ok (some x)) ↔
      Sentence calculator.alphabet expression.toList := by
  rw [exists_value_iff]
  constructor
  · intro fitting
    rw [← flatMap_scan expression]
    exact sentence_of_alternating calculator.alphabet _ fitting.1 (canonical_scan expression) fitting.2
  · exact alternating_of_sentence calculator.alphabet expression.toList

theorem exists_fault_iff (calculator : Calculator) (expression : String) :
    (∃ fault, calculator.evaluate expression = .error fault) ↔
      expression ≠ "" ∧ ¬ Sentence calculator.alphabet expression.toList := by
  rw [ne_eq, ← calculator.evaluate_eq_none_iff, ← exists_value_iff_sentence]
  cases calculator.evaluate expression with
  | error fault => simp
  | ok result =>
    cases result with
    | none => simp
    | some x => simp

theorem warning_of_mem_runEvents (alphabet : String) (values : Stack Float) (tokens : List Token)
    (event : Event) (member : event ∈ Rpn.runEvents alphabet values tokens)
    (warns : event.severity = .warn) : ∃ symbol, event = .meaningless symbol := by
  induction tokens generalizing values with
  | nil => cases member
  | cons token rest ih =>
    rw [Rpn.runEvents, List.mem_append] at member
    rcases member with now | later
    · unfold Rpn.stepEvents at now
      split at now
      · dsimp only at now
        rcases List.mem_append.1 now with odd | applied
        · split at odd
          · cases odd
          · exact ⟨_, List.mem_singleton.1 odd⟩
        · rw [List.mem_singleton.1 applied] at warns
          cases warns
      · cases now
    · split at later
      next next _ => exact ih next later
      next => cases later

theorem unused_not_mem_runEvents (alphabet : String) (values : Stack Float) (tokens : List Token)
    (count : Nat) : Event.unused count ∉ Rpn.runEvents alphabet values tokens := by
  intro member
  obtain ⟨symbol, wrong⟩ := warning_of_mem_runEvents alphabet values tokens _ member rfl
  cases wrong

theorem unused_not_mem_events (calculator : Calculator) (expression : String) (count : Nat) :
    Event.unused count ∉ calculator.calculateEvents expression := by
  have closing : Event.unused count ∉ Rpn.closingEvents
      (Rpn.run calculator.alphabet .empty (calculator.rpn expression)) := by
    cases succeeds : Rpn.run calculator.alphabet .empty (calculator.rpn expression) with
    | error fault => simp [Rpn.closingEvents]
    | ok final =>
      match final with
      | ⟨[]⟩ => simp [Rpn.closingEvents]
      | ⟨x :: below⟩ =>
        have only : Rpn.run calculator.alphabet .empty (calculator.rpn expression) = .ok ⟨[x]⟩ :=
          (calculator.value_rpn_eq_ok_iff expression x).1
            ((Rpn.value_eq_ok_iff _ _ x).2 ⟨below, succeeds⟩)
        cases succeeds.symm.trans only
        simp [Rpn.closingEvents]
  have running := unused_not_mem_runEvents calculator.alphabet .empty (calculator.rpn expression) count
  unfold calculateEvents evaluateEvents rpnEvents Rpn.valueEvents
  intro member
  simp only [List.mem_append] at member
  rcases member with (early | late) | last
  · simp at early
  · split at late
    · simp at late
    · simp only [List.mem_append, running, closing, false_or] at late
      split at late
      · cases late
      · simp at late
  · split at last
    · simp at last
    · cases last

theorem evaluate_accepts_sentences (calculator : Calculator) (expression : String) :
    (calculator.evaluate expression = .ok none ↔ expression = "") ∧
      ((∃ x, calculator.evaluate expression = .ok (some x)) ↔
        Sentence calculator.alphabet expression.toList) ∧
      ((∃ fault, calculator.evaluate expression = .error fault) ↔
        expression ≠ "" ∧ ¬ Sentence calculator.alphabet expression.toList) ∧
      (∀ ranking : Ranking, (∃ x, calculator.evaluate expression = .ok (some x)) ↔
        ∃ x, evaluate ⟨calculator.alphabet, ranking⟩ expression = .ok (some x)) ∧
      (∀ x, Rpn.value calculator.alphabet (calculator.rpn expression) = .ok x ↔
        Rpn.run calculator.alphabet .empty (calculator.rpn expression) = .ok ⟨[x]⟩) ∧
      ∀ count, Event.unused count ∉ calculator.calculateEvents expression := by
  refine ⟨calculator.evaluate_eq_none_iff expression, calculator.exists_value_iff_sentence expression,
    calculator.exists_fault_iff expression, ?_, calculator.value_rpn_eq_ok_iff expression,
    calculator.unused_not_mem_events expression⟩
  intro ranking
  rw [exists_value_iff_sentence, exists_value_iff_sentence]

end Reckoner.Calculator
