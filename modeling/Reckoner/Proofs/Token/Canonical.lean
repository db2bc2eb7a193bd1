import Reckoner.Proofs.Infix.Alternation
import Reckoner.Token.Scan

/-! Scanning keeps every character and yields canonical lists: numbers of numeral characters, no two
of them in a row, and symbols of one other character. Each canonical list is the scan of its own text,
so texts and canonical lists are the same thing in two forms. -/

namespace Reckoner.Token
open Infix Text

structure Canonical (tokens : List Token) : Prop where
  numbers : ∀ text, number text ∈ tokens → text ≠ "" ∧ ∀ c ∈ text.toList, isNumeralChar c = true
  symbols : ∀ c, symbol c ∈ tokens → isNumeralChar c = false
  sparse : Sparse tokens

theorem scanAfter_append_symbol (run front back : List Char) (c : Char)
    (other : isNumeralChar c = false) :
    scanAfter run (front ++ c :: back) = scanAfter run front ++ symbol c :: scanAfter [] back := by
  induction front generalizing run with
  | nil => simp [scanAfter, other]
  | cons d front ih =>
    by_cases numeral : isNumeralChar d = true
    · simp only [List.cons_append, scanAfter, numeral, if_true, ih]
    · simp only [List.cons_append, scanAfter, numeral, Bool.false_eq_true, if_false, ih,
        List.append_assoc]

theorem scanAfter_numeral (run cs : List Char) (numeral : ∀ c ∈ cs, isNumeralChar c = true) :
    scanAfter run cs = numberOf (cs.reverse ++ run) := by
  induction cs generalizing run with
  | nil => rfl
  | cons c cs ih =>
    rw [scanAfter, if_pos (numeral c List.mem_cons_self),
      ih _ fun d member => numeral d (List.mem_cons_of_mem c member)]
    simp

theorem scanAfter_number (cs : List Char) (nonempty : cs ≠ [])
    (numeral : ∀ c ∈ cs, isNumeralChar c = true) : scanAfter [] cs = [number (String.ofList cs)] := by
  rw [scanAfter_numeral [] cs numeral, List.append_nil]
  unfold numberOf
  split
  next empty => exact absurd (List.reverse_eq_nil_iff.1 empty) nonempty
  next => rw [List.reverse_reverse]

theorem flatMap_numberOf (run : List Char) :
    (numberOf run).flatMap (fun token => token.text.toList) = run.reverse := by
  unfold numberOf
  split
  · rfl
  · simp

theorem flatMap_scanAfter (run cs : List Char) :
    (scanAfter run cs).flatMap (fun token => token.text.toList) = run.reverse ++ cs := by
  induction cs generalizing run with
  | nil => rw [scanAfter, flatMap_numberOf, List.append_nil]
  | cons c cs ih =>
    rw [scanAfter]
    split
    · simp [ih]
    · simp [ih, flatMap_numberOf]

theorem flatMap_scan (expression : String) :
    (scan expression).flatMap (fun token => token.text.toList) = expression.toList :=
  flatMap_scanAfter [] expression.toList

theorem scan_eq_nil_iff (expression : String) : scan expression = [] ↔ expression = "" := by
  constructor
  · intro empty
    have characters := flatMap_scan expression
    rw [empty] at characters
    exact String.toList_eq_nil_iff.1 characters.symm
  · intro empty
    rw [empty]
    rfl

theorem canonical_numberOf (run : List Char) (numeral : ∀ c ∈ run, isNumeralChar c = true) :
    Canonical (numberOf run) := by
  unfold numberOf
  split
  next => exact ⟨by simp, by simp, .nil⟩
  next nonempty =>
    refine ⟨?_, by simp, .singleton _⟩
    intro text member
    cases List.mem_singleton.1 member
    refine ⟨?_, ?_⟩
    · intro empty
      have none := congrArg String.toList empty
      rw [String.toList_ofList] at none
      exact nonempty (List.reverse_eq_nil_iff.1 none)
    · intro c inside
      rw [String.toList_ofList, List.mem_reverse] at inside
      exact numeral c inside

theorem Canonical.append_symbol {front back : List Token} (left : Canonical front)
    (right : Canonical back) (c : Char) (other : isNumeralChar c = false) :
    Canonical (front ++ symbol c :: back) := by
  constructor
  · intro text member
    rcases List.mem_append.mp member with inside | inside
    · exact left.numbers text inside
    · rcases List.mem_cons.mp inside with wrong | beyond
      · cases wrong
      · exact right.numbers text beyond
  · intro d member
    rcases List.mem_append.mp member with inside | inside
    · exact left.symbols d inside
    · rcases List.mem_cons.mp inside with same | beyond
      · cases same
        exact other
      · exact right.symbols d beyond
  · rw [Sparse, List.isChain_append]
    refine ⟨left.sparse, ?_, ?_⟩
    · rw [List.isChain_cons]
      exact ⟨fun token _ wrong => absurd wrong Bool.false_ne_true, right.sparse⟩
    · intro token _ head first _
      cases first
      rfl

theorem canonical_scanAfter (run cs : List Char) (numeral : ∀ c ∈ run, isNumeralChar c = true) :
    Canonical (scanAfter run cs) := by
  induction cs generalizing run with
  | nil => exact canonical_numberOf run numeral
  | cons c cs ih =>
    rw [scanAfter]
    split
    next here =>
      apply ih
      intro d member
      rcases List.mem_cons.mp member with rfl | inside
      · exact here
      · exact numeral d inside
    next other =>
      exact (canonical_numberOf run numeral).append_symbol (ih [] (by simp)) c
        (Bool.not_eq_true _ ▸ other)

theorem canonical_scan (expression : String) : Canonical (scan expression) :=
  canonical_scanAfter [] expression.toList (by simp)

theorem symbol_mem_scan_iff (expression : String) (c : Char) :
    symbol c ∈ scan expression ↔ c ∈ expression.toList ∧ isNumeralChar c = false := by
  have canonical := canonical_scan expression
  rw [← flatMap_scan expression, List.mem_flatMap]
  constructor
  · intro member
    exact ⟨⟨symbol c, member, by simp⟩, canonical.symbols c member⟩
  · intro inside
    obtain ⟨⟨token, member, here⟩, other⟩ := inside
    cases token with
    | number text =>
      have numeral := (canonical.numbers text member).2 c here
      exact absurd (other.symm.trans numeral) Bool.false_ne_true
    | symbol d =>
      rw [toList_text_symbol, List.mem_singleton] at here
      exact here ▸ member

theorem Canonical.tail {token : Token} {rest : List Token} (canonical : Canonical (token :: rest)) :
    Canonical rest where
  numbers text member := canonical.numbers text (List.mem_cons_of_mem token member)
  symbols c member := canonical.symbols c (List.mem_cons_of_mem token member)
  sparse := canonical.sparse.tail

theorem Canonical.scanAfter_text {tokens : List Token} (canonical : Canonical tokens) (text : String)
    (member : number text ∈ tokens) : scanAfter [] text.toList = [number text] := by
  obtain ⟨nonempty, numeral⟩ := canonical.numbers text member
  have some_char : text.toList ≠ [] := fun empty => nonempty (String.toList_eq_nil_iff.1 empty)
  rw [scanAfter_number _ some_char numeral, String.ofList_toList]

/-- The text of a canonical list is scanned to that list: a number ends where a symbol or nothing
follows. -/
theorem Canonical.scanAfter_flatMap (tokens : List Token) (canonical : Canonical tokens) :
    scanAfter [] (tokens.flatMap fun token => token.text.toList) = tokens := by
  match tokens, canonical with
  | [], _ => rfl
  | symbol c :: rest, canonical =>
    have other := canonical.symbols c List.mem_cons_self
    rw [List.flatMap_cons, toList_text_symbol, List.singleton_append,
      ← List.nil_append (c :: rest.flatMap _), scanAfter_append_symbol [] [] _ c other,
      Canonical.scanAfter_flatMap rest canonical.tail]
    rfl
  | [number text], canonical =>
    rw [List.flatMap_singleton, text_number, canonical.scanAfter_text text List.mem_cons_self]
  | number text :: symbol c :: rest, canonical =>
    have other := canonical.tail.symbols c List.mem_cons_self
    rw [List.flatMap_cons, List.flatMap_cons, text_number, toList_text_symbol, List.singleton_append,
      scanAfter_append_symbol [] _ _ c other, canonical.scanAfter_text text List.mem_cons_self,
      Canonical.scanAfter_flatMap rest canonical.tail.tail]
    rfl
  | number text :: number other :: rest, canonical =>
    have wrong : (number other).isNumber = false := (List.isChain_cons_cons.1 canonical.sparse).1 rfl
    cases wrong

theorem toList_join_texts (tokens : List Token) :
    (String.join (tokens.map text)).toList = tokens.flatMap fun token => token.text.toList := by
  rw [String.toList_join, List.flatMap_map]

/-- Scanning and writing out undo each other: every text has one canonical list of tokens, and every
canonical list is the scan of its text. -/
theorem scan_join_texts :
    (∀ expression, Canonical (scan expression) ∧
        String.join ((scan expression).map text) = expression) ∧
      ∀ tokens, Canonical tokens → scan (String.join (tokens.map text)) = tokens := by
  constructor
  · intro expression
    refine ⟨canonical_scan expression, String.toList_inj.1 ?_⟩
    rw [toList_join_texts, flatMap_scan]
  · intro tokens canonical
    rw [scan, toList_join_texts, canonical.scanAfter_flatMap]

theorem scan_join_digits_of_two_scripts :
    Canonical [symbol '×', number "1٣.", symbol '-', symbol 'é', number "..", symbol '+'] ∧
      scan (String.join ["×", "1٣.", "-", "é", "..", "+"]) =
        [symbol '×', number "1٣.", symbol '-', symbol 'é', number "..", symbol '+'] := by
  have scanned : scan "×1٣.-é..+" =
      [symbol '×', number "1٣.", symbol '-', symbol 'é', number "..", symbol '+'] := by decide
  have canonical : Canonical
      [symbol '×', number "1٣.", symbol '-', symbol 'é', number "..", symbol '+'] :=
    scanned ▸ canonical_scan "×1٣.-é..+"
  exact ⟨canonical, scan_join_texts.2 _ canonical⟩

end Reckoner.Token
