import Reckoner.Proofs.Display.Range
import Reckoner.Proofs.Number.Characters
import Reckoner.Proofs.Number.Coarsest

/-! The grammar of results. A number in the plain range is shown as a whole number and a fraction, any
other finite number with one digit before the point and an exponent that the plain range leaves out.
No digits reach over the ends of the range, since rounding is monotone. -/

namespace Reckoner.Display
open Binary64 Numeral

/-- A whole number from 7 up, or one from 4 up after a minus. -/
def IsExponent (cs : List Char) : Prop :=
  ∃ digits, IsWhole digits ∧
    ((cs = digits ∧ 7 ≤ digitsValue digits) ∨ (cs = '-' :: digits ∧ 4 ≤ digitsValue digits))

theorem isExponent_exponentText (e : Int) (outside : e ≤ -4 ∨ 7 ≤ e) :
    IsExponent (Decimal.exponentText e) := by
  have value : ∀ n, digitsValue (Nat.toDigits 10 n) = n := fun _ => Nat.ofDigitChars_ten_toDigits
  cases e with
  | ofNat n =>
    refine ⟨Nat.toDigits 10 n, isWhole_toDigits n, Or.inl ⟨rfl, ?_⟩⟩
    rw [value]
    rw [Int.ofNat_eq_natCast] at outside
    omega
  | negSucc n =>
    refine ⟨Nat.toDigits 10 (n + 1), isWhole_toDigits (n + 1), Or.inr ⟨rfl, ?_⟩⟩
    rw [value]
    omega

section Ends
variable (pattern : Nat) (finite : pattern < infinity)
include finite

theorem pointPlace_of_lt_leastPlain (positive : 0 < pattern) (below : pattern < leastPlain) :
    (Decimal.shortest pattern).pointPlace ≤ -3 := by
  have power : Decimal.nearest ⟨1, -3⟩ = leastPlain := by decide +kernel
  have place : ((depth - 3 : Nat) : Int) - depth = -3 := by unfold depth; rfl
  rw [← place] at power ⊢
  exact Decimal.pointPlace_shortest_le finite positive _ (power ▸ below)

theorem pointPlace_of_abovePlain_le (above : abovePlain ≤ pattern) :
    8 ≤ (Decimal.shortest pattern).pointPlace := by
  have positive : 0 < pattern := Nat.lt_of_lt_of_le (by decide) above
  have reaches : one * 10 ^ 7 ≤ units pattern := Nat.not_lt.1 fun below =>
    Nat.not_lt.2 above ((lt_abovePlain_iff pattern).1 below)
  have power : 10 ^ (depth + 7) ≤ Decimal.grains pattern := by
    rw [Nat.pow_add, Decimal.ten_pow_depth, Nat.mul_right_comm]
    exact Nat.mul_le_mul_right _ reaches
  have place : ((depth + 7 : Nat) : Int) - depth = 7 := by clear reaches power; omega
  have beyond := Decimal.lt_pointPlace_shortest finite positive _ power
  rw [place] at beyond
  exact Int.add_one_le_of_lt beyond

theorem magnitudeText_of_positional (positional : style.isPositional pattern = true) :
    ∃ whole fraction, style.magnitudeText pattern = whole ++ '.' :: fraction ∧
      IsWhole whole ∧ IsFraction fraction := by
  rw [magnitudeText_positional pattern positional]
  rcases Nat.eq_zero_or_pos pattern with rfl | positive
  · exact ⟨['0'], ['0'], rfl, isWhole_zero, isFraction_zero⟩
  · exact Decimal.positionalText_of_reduced _ (Decimal.not_dvd_coefficient_shortest finite positive)

theorem magnitudeText_of_scientific (scientific : style.isPositional pattern = false) :
    ∃ c fraction exponent,
      style.magnitudeText pattern = c :: '.' :: (fraction ++ 'E' :: exponent) ∧
        c.isDigit = true ∧ c ≠ '0' ∧ IsFraction fraction ∧ IsExponent exponent := by
  have outside : ¬ (pattern = 0 ∨ (leastPlain ≤ pattern ∧ pattern < abovePlain)) := by
    rw [← isPositional_iff, scientific]
    exact Bool.false_ne_true
  have positive : 0 < pattern := by omega
  obtain ⟨c, fraction, digit, leading, after, text⟩ := Decimal.scientificText_of_reduced _
    (Decimal.not_dvd_coefficient_shortest finite positive)
  refine ⟨c, fraction, _, (magnitudeText_scientific pattern scientific).trans (text 'E'), digit,
    leading, after, isExponent_exponentText _ ?_⟩
  rcases Nat.lt_or_ge pattern leastPlain with below | inside
  · have := pointPlace_of_lt_leastPlain pattern finite positive below
    omega
  · have := pointPlace_of_abovePlain_le pattern finite (by omega)
    omega

end Ends

def splitOnce (c : Char) (cs : List Char) : Option (List Char × List Char) :=
  match cs.dropWhile (· != c) with
  | [] => none
  | _ :: rest => some (cs.takeWhile (· != c), rest)

theorem splitOnce_append (c : Char) (left right : List Char) (absent : c ∉ left) :
    splitOnce c (left ++ c :: right) = some (left, right) := by
  have before : ∀ d ∈ left, (d != c) = true := by
    intro d member
    rw [bne_iff_ne]
    rintro rfl
    exact absent member
  rw [splitOnce, List.takeWhile_append_of_pos before, List.dropWhile_append_of_pos before]
  simp

/-- A scientific text with its mark made a capital, and with a point and a zero before the mark where
there is no point. A text without a mark is left as it is. -/
def completed (scientific : List Char) : List Char :=
  match splitOnce 'e' scientific with
  | some (mantissa, exponent) =>
    if '.' ∈ mantissa then mantissa ++ 'E' :: exponent
    else mantissa ++ '.' :: '0' :: 'E' :: exponent
  | none => scientific

def exponential (x : Float) : List Char :=
  match kind x with
  | .nan => ['N', 'a', 'N']
  | .infinite negative => NumberStyle.signed negative ['i', 'n', 'f']
  | .finite negative pattern =>
    NumberStyle.signed negative ((Decimal.shortest pattern).scientificText false 'e')

theorem signed_append (negative : Bool) (left right : List Char) :
    NumberStyle.signed negative (left ++ right) = NumberStyle.signed negative left ++ right := by
  cases negative with
  | false => rfl
  | true => rfl

theorem signed_eq_append (negative : Bool) {sign : Prop} [Decidable sign]
    (set : sign ↔ negative = true) (cs : List Char) :
    NumberStyle.signed negative cs = (if sign then "-" else "").toList ++ cs := by
  cases negative with
  | false =>
    rw [if_neg (by simpa using set)]
    simp [NumberStyle.signed]
  | true =>
    rw [if_pos (set.2 rfl)]
    simp [NumberStyle.signed]

theorem splitOnce_scientificText (d : Decimal) (negative : Bool) :
    splitOnce 'e' (NumberStyle.signed negative (d.scientificText false 'e')) =
      some (NumberStyle.signed negative (Decimal.joinPoint false (d.digits.take 1) (d.digits.drop 1)),
        Decimal.exponentText (d.pointPlace - 1)) := by
  have digits := d.isDigit_of_mem_digits
  rw [Decimal.scientificText, signed_append]
  apply splitOnce_append
  intro member
  rcases NumberStyle.mem_signed _ _ _ member with minus | inside
  · exact absurd minus (by decide)
  · rcases Decimal.mem_joinPoint_of_digits false _ _
      (fun c inside => digits c (List.mem_of_mem_take inside))
      (fun c inside => digits c (List.mem_of_mem_drop inside)) _ inside with digit | point
    · exact absurd digit (by decide)
    · exact absurd point (by decide)

theorem completed_scientificText (d : Decimal) (negative : Bool) :
    completed (NumberStyle.signed negative (d.scientificText false 'e')) =
      NumberStyle.signed negative (d.scientificText true 'E') := by
  have target := signed_append negative (Decimal.joinPoint true (d.digits.take 1) (d.digits.drop 1))
    ('E' :: Decimal.exponentText (d.pointPlace - 1))
  rw [completed, splitOnce_scientificText]
  dsimp only
  refine Eq.trans ?_ target.symm
  by_cases nothing : d.digits.drop 1 = []
  · have absent : '.' ∉ NumberStyle.signed negative (d.digits.take 1) := by
      intro member
      rcases NumberStyle.mem_signed _ _ _ member with minus | inside
      · exact absurd minus (by decide)
      · exact absurd (d.isDigit_of_mem_digits _ (List.mem_of_mem_take inside)) (by decide)
    have bare : Decimal.joinPoint false (d.digits.take 1) [] = d.digits.take 1 := rfl
    have kept : Decimal.joinPoint true (d.digits.take 1) [] = d.digits.take 1 ++ ['.', '0'] := rfl
    rw [nothing, bare, kept, if_neg absent, signed_append, List.append_assoc]
    rfl
  · rw [Decimal.joinPoint_of_ne_nil false _ _ nothing, Decimal.joinPoint_of_ne_nil true _ _ nothing,
      signed_append, if_pos (List.mem_append_right _ List.mem_cons_self)]

section Signs
variable (x : Float) (negative : Bool) (pattern : Nat) (finite : kind x = .finite negative pattern)
include finite

theorem text_of_finite :
    text x = String.ofList (NumberStyle.signed negative (style.magnitudeText pattern)) := by
  rw [text, NumberStyle.text, finite]

theorem toList_text_abs : (text x.abs).toList = style.magnitudeText pattern := by
  have inside := ((kind_eq_finite_iff x negative pattern).1 finite).1
  rw [abs_of_finite x negative pattern finite,
    text_of_finite _ false pattern (kind_ofPattern false pattern inside), String.toList_ofList,
    NumberStyle.signed, if_neg Bool.false_ne_true]

theorem isPlain_abs_iff : IsPlain x.abs ↔ style.isPositional pattern = true := by
  have inside := ((kind_eq_finite_iff x negative pattern).1 finite).1
  rw [isPlain_iff, abs_of_finite x negative pattern finite, kind_ofPattern false pattern inside]
  simp

theorem le_toBits_iff : 2 ^ 63 ≤ x.toBits.toNat ↔ negative = true := by
  obtain ⟨inside, bits⟩ := (kind_eq_finite_iff x negative pattern).1 finite
  have small : infinity < 2 ^ 63 := by unfold infinity; omega
  rw [bits]
  cases negative with
  | false => simp only [Bool.false_eq_true, if_false, iff_false]; omega
  | true => simp only [if_true, iff_true]; omega

theorem text_eq_sign_append_text_abs :
    text x = (if 2 ^ 63 ≤ x.toBits.toNat then "-" else "") ++ text x.abs := by
  rw [← String.toList_inj, String.toList_append, toList_text_abs x negative pattern finite,
    text_of_finite x negative pattern finite, String.toList_ofList]
  exact signed_eq_append negative (le_toBits_iff x negative pattern finite) _

/-- A text in scientific form comes of a shorter one by cutting it at its mark, and there always is a
mark. -/
theorem toList_text_of_scientific (scientific : style.isPositional pattern = false) :
    (splitOnce 'e' (exponential x)).isSome = true ∧
      (text x).toList = completed (exponential x) := by
  rw [exponential, finite, text_of_finite x negative pattern finite, String.toList_ofList]
  dsimp only
  rw [splitOnce_scientificText, completed_scientificText, magnitudeText_scientific pattern scientific]
  exact ⟨rfl, rfl⟩

end Signs

theorem text_neg_of_pos (x : Float) (positive : 0 < x) : text (-x) = "-" ++ text x := by
  rw [← String.toList_inj, String.toList_append]
  rcases kind_of_pos x positive with infinite | ⟨pattern, _, finite⟩
  · have opposite := kind_ofPattern_infinity true
    rw [neg_of_infinite x false infinite, text, text, NumberStyle.text, NumberStyle.text, infinite,
      Bool.not_false, opposite, String.toList_ofList, String.toList_ofList]
    rfl
  · have inside := ((kind_eq_finite_iff x false pattern).1 finite).1
    rw [neg_of_finite x false pattern finite, Bool.not_false,
      text_of_finite x false pattern finite,
      text_of_finite _ true pattern (kind_ofPattern true pattern inside), String.toList_ofList,
      String.toList_ofList]
    simp [NumberStyle.signed]

/-- The text of a finite number is a minus exactly if its sign is set, and then the text of its
magnitude: in the plain range a whole number and a fraction, elsewhere one digit from 1 to 9, a
fraction and an exponent from 7 up or from -4 down, made of a shorter text that always has a mark to
cut it at. Negation puts a minus before the text of a positive number, infinity included, and no text
is empty. -/
theorem text_grammar :
    (∀ x : Float, x.isFinite = true →
      text x = (if 2 ^ 63 ≤ x.toBits.toNat then "-" else "") ++ text x.abs ∧
      (IsPlain x.abs → ∃ whole fraction, (text x.abs).toList = whole ++ '.' :: fraction ∧
        IsWhole whole ∧ IsFraction fraction) ∧
      (¬ IsPlain x.abs →
        (∃ c fraction exponent, (text x.abs).toList = c :: '.' :: (fraction ++ 'E' :: exponent) ∧
          c.isDigit = true ∧ c ≠ '0' ∧ IsFraction fraction ∧ IsExponent exponent) ∧
        (splitOnce 'e' (exponential x)).isSome = true ∧
        (text x).toList = completed (exponential x))) ∧
    (∀ x : Float, 0 < x → text (-x) = "-" ++ text x) ∧
    ∀ x : Float, text x ≠ "" := by
  refine ⟨?_, text_neg_of_pos, text_ne_empty⟩
  intro x number
  obtain ⟨negative, pattern, finite⟩ := (isFinite_iff x).1 number
  have inside := ((kind_eq_finite_iff x negative pattern).1 finite).1
  rw [isPlain_abs_iff x negative pattern finite, toList_text_abs x negative pattern finite]
  refine ⟨text_eq_sign_append_text_abs x negative pattern finite,
    magnitudeText_of_positional pattern inside, ?_⟩
  intro other
  have scientific : style.isPositional pattern = false := Bool.not_eq_true _ ▸ other
  exact ⟨magnitudeText_of_scientific pattern inside scientific,
    toList_text_of_scientific x negative pattern finite scientific⟩

theorem text_grammar_at_the_upper_end :
    text (-9999999.999999998) = "-" ++ text 9999999.999999998 ∧
      (∃ whole fraction, (text 9999999.999999998).toList = whole ++ '.' :: fraction ∧
        IsWhole whole ∧ IsFraction fraction) ∧
      (∃ c fraction exponent, (text 1e7).toList = c :: '.' :: (fraction ++ 'E' :: exponent) ∧
        c.isDigit = true ∧ c ≠ '0' ∧ IsFraction fraction ∧ IsExponent exponent) ∧
      text (-(1 / 0)) = "-" ++ text (1 / 0) := by
  obtain ⟨finite, negated, _⟩ := text_grammar
  have last : (-9999999.999999998 : Float).abs = 9999999.999999998 := by decide +kernel
  have next : (1e7 : Float).abs = 1e7 := by decide +kernel
  have set : 2 ^ 63 ≤ (-9999999.999999998 : Float).toBits.toNat := by decide +kernel
  obtain ⟨signed, plain, _⟩ := finite (-9999999.999999998) (by decide +kernel)
  obtain ⟨_, _, scientific⟩ := finite 1e7 (by decide +kernel)
  rw [last] at signed plain
  rw [next] at scientific
  rw [if_pos set] at signed
  exact ⟨signed, plain (by decide +kernel), (scientific (by decide +kernel)).1,
    negated (1 / 0) (by decide +kernel)⟩

example : text 9999999.999999998 = "9999999.999999998" ∧ text 1e7 = "1.0E7" ∧
    text 0.0009999999999999998 = "9.999999999999998E-4" ∧ text 0.001 = "0.001" := by
  decide +kernel

end Reckoner.Display
