import Mathlib.Data.List.TakeWhile
import Reckoner.Text.Lines

/-! Lines of a byte stream and of a text. A line feed is the byte 10 and no part of any other character,
so splitting at it never cuts a character; decoding a line gives back the text it encodes without the
white space at its ends. -/

namespace Reckoner.Text

def bytes (text : String) : List UInt8 :=
  text.toList.flatMap String.utf8EncodeChar

/-- The text is what the line has between the white space at its ends. -/
def Trims (line text : String) : Prop :=
  ∃ before behind, line.toList = before ++ text.toList ++ behind ∧
    (∀ c ∈ before ++ behind, isBlank c = true) ∧
    (∀ c, text.toList.head? = some c → isBlank c = false) ∧
    ∀ c, text.toList.getLast? = some c → isBlank c = false

theorem ten_mem_utf8EncodeChar_iff (c : Char) : 10 ∈ String.utf8EncodeChar c ↔ c = '\n' := by
  have code : c = '\n' ↔ c.val.toNat = 10 := by
    constructor
    · rintro rfl
      rfl
    · intro same
      exact Char.ext (UInt32.toNat_inj.1 same)
  rw [code]
  fun_cases String.utf8EncodeChar c
  all_goals
    simp only [List.mem_cons, List.not_mem_nil, or_false, ← UInt8.toNat_inj, UInt8.toNat_ofNat',
      UInt8.reduceToNat, Nat.reducePow]
    omega

theorem ten_mem_bytes_iff (text : String) : 10 ∈ bytes text ↔ '\n' ∈ text.toList := by
  rw [bytes, List.mem_flatMap]
  simp only [ten_mem_utf8EncodeChar_iff, exists_eq_right]

theorem bytes_eq_nil_iff (text : String) : bytes text = [] ↔ text = "" := by
  rw [bytes, ← String.toList_eq_nil_iff]
  cases text.toList with
  | nil => simp
  | cons c rest => simp

theorem bytes_append (front back : String) : bytes (front ++ back) = bytes front ++ bytes back := by
  rw [bytes, String.toList_append, List.flatMap_append]
  rfl

theorem mk_bytes (text : String) : (⟨(bytes text).toArray⟩ : ByteArray) = text.toByteArray := by
  rw [← String.utf8Encode_toList, List.utf8Encode, bytes]
  exact ByteArray.ext List.data_toByteArray.symm

theorem decoded_iff (line : List UInt8) (text : String) :
    String.fromUTF8? ⟨line.toArray⟩ = some text ↔ bytes text = line := by
  constructor
  · intro decoded
    unfold String.fromUTF8? at decoded
    split at decoded
    next valid =>
      have same : text.toByteArray = ⟨line.toArray⟩ := by
        rw [← Option.some.inj decoded]
        rfl
      rw [← mk_bytes] at same
      simpa using same
    next => cases decoded
  · rintro rfl
    rw [mk_bytes, String.fromUTF8?, dif_pos text.isValidUTF8]
    rfl

theorem decodeLine?_eq_none (line : List UInt8) (wrong : ∀ text, bytes text ≠ line) :
    decodeLine? line = none := by
  rw [decodeLine?, Option.map_eq_none_iff, Option.eq_none_iff_forall_ne_some]
  intro text decoded
  exact wrong text ((decoded_iff line text).1 decoded)

theorem splitLinesAfter_of_not_mem (line rest : List UInt8) (plain : 10 ∉ rest) :
    splitLinesAfter line rest =
      if (line.reverse ++ rest).isEmpty then [] else [line.reverse ++ rest] := by
  induction rest generalizing line with
  | nil => simp [splitLinesAfter]
  | cons b rest ih =>
    rw [List.mem_cons, not_or] at plain
    obtain ⟨other, plain⟩ := plain
    rw [splitLinesAfter, if_neg (Ne.symm other), ih _ plain]
    simp

theorem splitLinesAfter_append (line front rest : List UInt8) (plain : 10 ∉ front) :
    splitLinesAfter line (front ++ 10 :: rest) = (line.reverse ++ front) :: splitLines rest := by
  induction front generalizing line with
  | nil => simp [splitLinesAfter, splitLines]
  | cons b front ih =>
    rw [List.mem_cons, not_or] at plain
    obtain ⟨other, plain⟩ := plain
    rw [List.cons_append, splitLinesAfter, if_neg (Ne.symm other), ih _ plain]
    simp

theorem splitLines_of_not_mem (line : List UInt8) (nonempty : line ≠ []) (plain : 10 ∉ line) :
    splitLines line = [line] := by
  rw [splitLines, splitLinesAfter_of_not_mem [] line plain]
  simp [nonempty]

theorem splitLines_append (line rest : List UInt8) (plain : 10 ∉ line) :
    splitLines (line ++ 10 :: rest) = line :: splitLines rest :=
  splitLinesAfter_append [] line rest plain

theorem dropWhile_isBlank (cs : List Char) (first : ∀ c, cs.head? = some c → isBlank c = false) :
    cs.dropWhile isBlank = cs := by
  cases cs with
  | nil => rfl
  | cons c rest => exact List.dropWhile_cons_of_neg (by simp [first c rfl])

theorem isBlank_head_dropWhile (cs : List Char) (c : Char)
    (first : (cs.dropWhile isBlank).head? = some c) : isBlank c = false := by
  have other := List.head?_dropWhile_not isBlank cs
  rw [first] at other
  simpa using other

theorem trim_append (before cs behind : List Char) (blank : ∀ c ∈ before ++ behind, isBlank c = true)
    (first : ∀ c, cs.head? = some c → isBlank c = false)
    (last : ∀ c, cs.getLast? = some c → isBlank c = false) : trim (before ++ cs ++ behind) = cs := by
  obtain ⟨left, right⟩ := List.forall_mem_append.1 blank
  cases cs with
  | nil => simp [trim, List.dropWhile_eq_nil_iff.2 blank]
  | cons c rest =>
    have front : (before ++ (c :: rest ++ behind)).dropWhile isBlank = c :: rest ++ behind := by
      rw [List.dropWhile_append_of_pos left]
      exact dropWhile_isBlank _ (by simpa using first)
    have back : (behind.reverse ++ (c :: rest).reverse).dropWhile isBlank = (c :: rest).reverse := by
      rw [List.dropWhile_append_of_pos (by simpa using right)]
      exact dropWhile_isBlank _ (by simpa only [List.head?_reverse] using last)
    rw [trim, List.append_assoc, front, List.reverse_append, back, List.reverse_reverse]

theorem exists_blanks_behind (cs : List Char) :
    ∃ behind, (∀ c ∈ behind, isBlank c = true) ∧ cs.dropWhile isBlank = trim cs ++ behind := by
  refine ⟨((cs.dropWhile isBlank).reverse.takeWhile isBlank).reverse, ?_, ?_⟩
  · intro c member
    exact List.mem_takeWhile_imp (List.mem_reverse.1 member)
  · rw [trim, ← List.reverse_append, List.takeWhile_append_dropWhile, List.reverse_reverse]

theorem trims_trim (line : String) : Trims line (String.ofList (trim line.toList)) := by
  obtain ⟨behind, blank, rest⟩ := exists_blanks_behind line.toList
  refine ⟨line.toList.takeWhile isBlank, behind, ?_, ?_, ?_, ?_⟩
  · rw [String.toList_ofList, List.append_assoc, ← rest, List.takeWhile_append_dropWhile]
  · exact List.forall_mem_append.2 ⟨fun c member => List.mem_takeWhile_imp member, blank⟩
  · intro c first
    rw [String.toList_ofList] at first
    apply isBlank_head_dropWhile line.toList c
    rw [rest, List.head?_append, first]
    rfl
  · intro c last
    rw [String.toList_ofList, trim, List.getLast?_reverse] at last
    exact isBlank_head_dropWhile _ c last

theorem trims_iff (line text : String) :
    Trims line text ↔ text = String.ofList (trim line.toList) := by
  constructor
  · rintro ⟨before, behind, same, blank, first, last⟩
    rw [same, trim_append before _ behind blank first last, String.ofList_toList]
  · rintro rfl
    exact trims_trim line

theorem decodeLine?_bytes (line text : String) (trims : Trims line text) :
    decodeLine? (bytes line) = some text := by
  rw [decodeLine?, (decoded_iff _ line).2 rfl, (trims_iff line text).1 trims]
  rfl

theorem not_mem_append {c : Char} {front back : String} (before : c ∉ front.toList)
    (behind : c ∉ back.toList) : c ∉ (front ++ back).toList := by
  rw [String.toList_append, List.mem_append, not_or]
  exact ⟨before, behind⟩

def lines (text : List Char) : List (List Char) :=
  text.splitOn '\n'

end Reckoner.Text
