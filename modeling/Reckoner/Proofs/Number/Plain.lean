import Mathlib.Data.List.TakeWhile
import Reckoner.Number.Reading
import Reckoner.Text.Numeral

/-! Numerals without a sign and an exponent. Among the texts of numeral characters these are the
ones that can be read. -/

namespace Reckoner.Text

theorem isDigit_iff (c : Char) : c.isDigit = true ↔ 48 ≤ c.toNat ∧ c.toNat ≤ 57 := by
  simp [Char.isDigit, UInt32.le_iff_toNat_le]

theorem numberRanges_contains (n : Nat) (listed : numberRanges.contains n = true) :
    (48 ≤ n ∧ n ≤ 57) ∨ 128 ≤ n := by
  obtain ⟨rest, table⟩ : ∃ rest, numberRanges = (0x30, 0x39) :: (0xb2, 0xb3) :: rest := ⟨_, rfl⟩
  simp only [table, Ranges.contains] at listed
  split at listed
  · cases listed
  · simp only [Bool.or_eq_true, decide_eq_true_eq] at listed
    rcases listed with small | large
    · omega
    · split at large
      · cases large
      · omega

theorem isNumeralChar_cases (c : Char) (numeral : isNumeralChar c = true) :
    c = '.' ∨ c.isDigit = true ∨ 128 ≤ c.toNat := by
  simp only [isNumeralChar, Bool.or_eq_true, beq_iff_eq] at numeral
  rw [isDigit_iff]
  exact numeral.imp_right (numberRanges_contains c.toNat)

theorem isNumeralChar_of_isDigit (c : Char) (digit : c.isDigit = true) : isNumeralChar c = true := by
  obtain ⟨rest, table⟩ : ∃ rest, numberRanges = (0x30, 0x39) :: rest := ⟨_, rfl⟩
  obtain ⟨low, high⟩ := (isDigit_iff c).1 digit
  simp only [isNumeralChar, table, Ranges.contains, Bool.or_eq_true]
  right
  rw [if_neg (by omega)]
  simp [high]

theorem toLower_of_isNumeralChar (c : Char) (numeral : isNumeralChar c = true) : c.toLower = c := by
  have outside : ¬ (c.val ≥ 'A'.val ∧ c.val ≤ 'Z'.val) := by
    intro range
    obtain ⟨low, high⟩ := range
    simp [UInt32.le_iff_toNat_le] at low high
    rcases isNumeralChar_cases c numeral with rfl | digit | large
    · exact absurd low (by decide)
    · have bounds := (isDigit_iff c).1 digit
      omega
    · omega
  exact dif_neg outside

end Reckoner.Text

namespace Reckoner.Numeral
open Text

/-- Digits with at most one point among them, and at least one digit. -/
def IsPlain (cs : List Char) : Prop :=
  (∀ c ∈ cs, c.isDigit = true ∨ c = '.') ∧ cs.count '.' ≤ 1 ∧ ∃ c ∈ cs, c.isDigit = true

theorem splitSign_of_numeral (cs : List Char) (numeral : ∀ c ∈ cs, isNumeralChar c = true) :
    splitSign cs = (false, cs) := by
  unfold splitSign
  split
  · exact absurd (numeral '-' List.mem_cons_self) (by decide)
  · exact absurd (numeral '+' List.mem_cons_self) (by decide)
  · rfl

theorem isSome_exponent?_iff (cs : List Char) (numeral : ∀ c ∈ cs, isNumeralChar c = true) :
    (exponent? cs).isSome = true ↔ cs = [] := by
  cases cs with
  | nil => simp [exponent?]
  | cons mark rest =>
    have unmarked : ¬ (mark = 'e' ∨ mark = 'E') := by
      intro marked
      rcases marked with rfl | rfl
      · exact absurd (numeral 'e' List.mem_cons_self) (by decide)
      · exact absurd (numeral 'E' List.mem_cons_self) (by decide)
    simp [exponent?, unmarked]

/-- The words for numbers begin with two letters only, and what begins otherwise after its sign is read
as a decimal. -/
theorem readChars?_of_splitSign (cs rest : List Char) (negative : Bool)
    (split : splitSign cs = (negative, rest))
    (noWord : ∀ c ∈ rest.head?, c.toLower ≠ 'i' ∧ c.toLower ≠ 'n') :
    readChars? cs = (decimal? rest).map fun d => Binary64.ofPattern negative d.nearest := by
  have begins : ∀ letter letters, rest.map Char.toLower = letter :: letters →
      letter ≠ 'i' ∧ letter ≠ 'n' := by
    intro letter letters same
    cases rest with
    | nil => cases same
    | cons c _ =>
      rw [← (List.cons.inj same).1]
      exact noWord c rfl
  have notInfinite : ¬ (rest.map Char.toLower = "inf".toList ∨
      rest.map Char.toLower = "infinity".toList) := by
    intro infinite
    rcases infinite with same | same
    · exact (begins 'i' _ same).1 rfl
    · exact (begins 'i' _ same).1 rfl
  have notNan : rest.map Char.toLower ≠ "nan".toList := fun same => (begins 'n' _ same).2 rfl
  simp only [readChars?, split, notInfinite, notNan, if_false]

theorem no_word_of_isNumeralChar (c : Char) (numeral : isNumeralChar c = true) :
    c.toLower ≠ 'i' ∧ c.toLower ≠ 'n' := by
  rw [toLower_of_isNumeralChar c numeral]
  constructor
  · intro same
    exact absurd (same ▸ numeral) (by decide)
  · intro same
    exact absurd (same ▸ numeral) (by decide)

theorem readChars?_of_numeral (cs : List Char) (numeral : ∀ c ∈ cs, isNumeralChar c = true) :
    readChars? cs = (decimal? cs).map fun d => Binary64.ofPattern false d.nearest := by
  apply readChars?_of_splitSign cs cs false (splitSign_of_numeral cs numeral)
  intro c first
  exact no_word_of_isNumeralChar c (numeral c (List.mem_of_mem_head? first))

theorem point_not_mem_digits (cs : List Char) (digits : ∀ c ∈ cs, c.isDigit = true) : '.' ∉ cs := by
  intro member
  exact absurd (digits '.' member) (by decide)

theorem isPlain_digits_iff (whole : List Char) (digits : ∀ c ∈ whole, c.isDigit = true) :
    IsPlain whole ↔ whole ≠ [] := by
  have noPoint := point_not_mem_digits whole digits
  constructor
  · intro plain
    obtain ⟨_, _, c, member, _⟩ := plain
    exact List.ne_nil_of_mem member
  · intro nonempty
    obtain ⟨c, member⟩ := List.exists_mem_of_ne_nil whole nonempty
    refine ⟨fun d inside => Or.inl (digits d inside), ?_, c, member, digits c member⟩
    rw [List.count_eq_zero_of_not_mem noPoint]
    omega

theorem isPlain_point_iff (whole rest : List Char) (digits : ∀ c ∈ whole, c.isDigit = true) :
    IsPlain (whole ++ '.' :: rest) ↔
      (∀ c ∈ rest, c.isDigit = true) ∧ ¬ (whole = [] ∧ rest = []) := by
  have noPoint := point_not_mem_digits whole digits
  have points : (whole ++ '.' :: rest).count '.' = rest.count '.' + 1 := by
    rw [List.count_append, List.count_cons_self, List.count_eq_zero_of_not_mem noPoint, Nat.zero_add]
  constructor
  · intro plain
    obtain ⟨characters, atMost, c, member, digit⟩ := plain
    have noOther : '.' ∉ rest := List.count_eq_zero.1 (by omega)
    refine ⟨fun d inside => ?_, ?_⟩
    · rcases characters d (by simp [inside]) with digit | rfl
      · exact digit
      · exact absurd inside noOther
    · intro empty
      obtain ⟨rfl, rfl⟩ := empty
      rw [List.nil_append, List.mem_singleton] at member
      exact absurd (member ▸ digit) (by decide)
  · intro remainder
    obtain ⟨restDigits, nonempty⟩ := remainder
    have noOther := point_not_mem_digits rest restDigits
    refine ⟨?_, ?_, ?_⟩
    · intro c member
      rcases List.mem_append.mp member with inside | inside
      · exact Or.inl (digits c inside)
      · rcases List.mem_cons.mp inside with rfl | beyond
        · exact Or.inr rfl
        · exact Or.inl (restDigits c beyond)
    · rw [points, List.count_eq_zero_of_not_mem noOther]
    · by_cases none : whole = []
      · obtain ⟨c, member⟩ := List.exists_mem_of_ne_nil rest fun empty => nonempty ⟨none, empty⟩
        exact ⟨c, by simp [member], restDigits c member⟩
      · obtain ⟨c, member⟩ := List.exists_mem_of_ne_nil whole none
        exact ⟨c, by simp [member], digits c member⟩

theorem isSome_decimal?_iff (cs : List Char) (numeral : ∀ c ∈ cs, isNumeralChar c = true) :
    (decimal? cs).isSome = true ↔ IsPlain cs := by
  obtain ⟨whole, after, parts⟩ : ∃ whole after, splitDigits cs = (whole, after) := ⟨_, _, rfl⟩
  have whole_eq : cs.takeWhile Char.isDigit = whole := congrArg Prod.fst parts
  have after_eq : cs.dropWhile Char.isDigit = after := congrArg Prod.snd parts
  have digits : ∀ c ∈ whole, c.isDigit = true := fun c member =>
    List.mem_takeWhile_imp (whole_eq ▸ member)
  have cs_eq : cs = whole ++ after := by
    rw [← whole_eq, ← after_eq, List.takeWhile_append_dropWhile]
  subst cs_eq
  simp only [decimal?, parts]
  match after with
  | [] =>
    rw [List.append_nil, isPlain_digits_iff whole digits]
    simp [splitFraction, exponent?]
  | c :: rest =>
    have notDigit : c.isDigit = false := by
      simpa [after_eq] using List.head?_dropWhile_not Char.isDigit (whole ++ c :: rest)
    by_cases point : c = '.'
    · subst point
      rw [isPlain_point_iff whole rest digits]
      have remains := isSome_exponent?_iff (rest.dropWhile Char.isDigit) fun d member =>
        numeral d (by simp [(List.dropWhile_sublist _).subset member])
      by_cases all : ∀ d ∈ rest, d.isDigit = true
      · have taken : splitDigits rest = (rest, []) :=
          Prod.ext (List.takeWhile_eq_self_iff.2 all) (List.dropWhile_eq_nil_iff.2 all)
        rw [and_iff_right all]
        simp [splitFraction, taken, exponent?]
      · have left : exponent? (splitDigits rest).2 = none := by
          rw [← Option.not_isSome_iff_eq_none, splitDigits, remains, List.dropWhile_eq_nil_iff]
          exact all
        simp [splitFraction, left, all]
    · have unread : exponent? (c :: rest) = none := by
        rw [← Option.not_isSome_iff_eq_none, isSome_exponent?_iff]
        · exact List.cons_ne_nil c rest
        · exact fun d member => numeral d (List.mem_append_right whole member)
      have unsplit : splitFraction (c :: rest) = ([], c :: rest) := by
        unfold splitFraction
        split
        next same => exact absurd (List.cons.inj same).1 point
        next => rfl
      have refused : ¬ IsPlain (whole ++ c :: rest) := by
        intro plain
        obtain ⟨characters, _⟩ := plain
        rcases characters c (by simp) with digit | same
        · exact absurd (notDigit.symm.trans digit) Bool.false_ne_true
        · exact point same
      simp [unsplit, unread, refused]

theorem isSome_readChars?_iff (cs : List Char) (numeral : ∀ c ∈ cs, isNumeralChar c = true) :
    (readChars? cs).isSome = true ↔ IsPlain cs := by
  rw [readChars?_of_numeral cs numeral, Option.isSome_map, isSome_decimal?_iff cs numeral]

theorem IsPlain.numeral {cs : List Char} (plain : IsPlain cs) : ∀ c ∈ cs, isNumeralChar c = true := by
  intro c member
  rcases plain.1 c member with digit | rfl
  · exact isNumeralChar_of_isDigit c digit
  · decide

theorem decimal?_singleton (c : Char) (other : isNumeralChar c = false) : decimal? [c] = none := by
  have notDigit : c.isDigit = false := by
    by_contra digit
    rw [Bool.not_eq_false] at digit
    exact absurd (other.symm.trans (isNumeralChar_of_isDigit c digit)) Bool.false_ne_true
  have unsplit : splitFraction [c] = ([], [c]) := by
    unfold splitFraction
    split
    next same =>
      rw [(List.cons.inj same).1] at other
      exact absurd other (by decide)
    next => rfl
  simp [decimal?, splitDigits, notDigit, unsplit]

theorem read?_toString (c : Char) (other : isNumeralChar c = false) : read? c.toString = none := by
  have single : c.toString.toList = [c] := by simp [Char.toString]
  rw [read?, single]
  by_cases sign : c = '-' ∨ c = '+'
  · rcases sign with rfl | rfl
    · rfl
    · rfl
  · have unsigned : splitSign [c] = (false, [c]) := by
      simp only [not_or] at sign
      simp [splitSign, sign.1, sign.2]
    simp [readChars?, unsigned, decimal?_singleton c other]

end Reckoner.Numeral
