import Reckoner.Console.Run
import Reckoner.Proofs.Text.Lines

/-! The lines that a run reads from its input: all of them, or those before the first one that is not
text. The last line may be without its end. -/

namespace Reckoner.Console
open Text

/-- The texts of the lines before the first one that is not in UTF-8, and whether there is one. -/
inductive Reads : List UInt8 → List String → Bool → Prop
  | nothing : Reads [] [] false
  | unended (line text : String) (nonempty : line ≠ "") (plain : '\n' ∉ line.toList)
      (trims : Trims line text) : Reads (bytes line) [text] false
  | ended (line text : String) (plain : '\n' ∉ line.toList) (trims : Trims line text)
      {later : List UInt8} {texts : List String} {broken : Bool} (reads : Reads later texts broken) :
      Reads (bytes line ++ 10 :: later) (text :: texts) broken
  | stopped (line later : List UInt8) (plain : 10 ∉ line) (wrong : ∀ text, bytes text ≠ line)
      (ends : later = [] ∨ ∃ more, later = 10 :: more) : Reads (line ++ later) [] true

theorem readLines_cons_bytes (line text : String) (trims : Trims line text)
    (later : List (List UInt8)) :
    readLines (bytes line :: later) = (text :: (readLines later).1, (readLines later).2) := by
  rw [readLines, decodeLine?_bytes line text trims]

theorem readLines_cons_of_wrong (line : List UInt8) (later : List (List UInt8))
    (wrong : ∀ text, bytes text ≠ line) : readLines (line :: later) = ([], true) := by
  rw [readLines, decodeLine?_eq_none line wrong]

theorem Reads.readLines {input : List UInt8} {texts : List String} {broken : Bool}
    (reads : Reads input texts broken) : readLines (splitLines input) = (texts, broken) := by
  induction reads with
  | nothing => rfl
  | unended line text nonempty plain trims =>
    rw [splitLines_of_not_mem _ (mt (bytes_eq_nil_iff line).1 nonempty)
      (mt (ten_mem_bytes_iff line).1 plain), readLines_cons_bytes line text trims]
    rfl
  | ended line text plain trims _ ih =>
    rw [splitLines_append _ _ (mt (ten_mem_bytes_iff line).1 plain),
      readLines_cons_bytes line text trims, ih]
  | stopped line later plain wrong ends =>
    have nonempty : line ≠ [] := fun empty => wrong "" (empty ▸ rfl)
    rcases ends with rfl | ⟨more, rfl⟩
    · rw [List.append_nil, splitLines_of_not_mem line nonempty plain,
        readLines_cons_of_wrong line [] wrong]
    · rw [splitLines_append line more plain, readLines_cons_of_wrong line _ wrong]

theorem reads_single (text : String) (nonempty : text ≠ "") (plain : '\n' ∉ text.toList)
    (first : ∀ c, text.toList.head? = some c → isBlank c = false)
    (last : ∀ c, text.toList.getLast? = some c → isBlank c = false) (ending : List UInt8)
    (ended : ending ∈ [[], [10], [13, 10]]) : Reads (bytes text ++ ending) [text] false := by
  have bare : Trims text text := ⟨[], [], by simp, by simp, first, last⟩
  simp only [List.mem_cons, List.not_mem_nil, or_false] at ended
  rcases ended with rfl | rfl | rfl
  · rw [List.append_nil]
    exact .unended text text nonempty plain bare
  · exact .ended text text plain bare .nothing
  · -- The carriage return belongs to the line, and goes with its white space.
    have blank : isBlank '\r' = true := by decide
    have returned : Trims (text ++ "\r") text := ⟨[], ['\r'], by simp, by simpa using blank, first, last⟩
    have reads := Reads.ended _ text (not_mem_append plain (by simp)) returned .nothing
    rw [bytes_append, List.append_assoc] at reads
    exact reads

end Reckoner.Console
