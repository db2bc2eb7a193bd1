import Reckoner.Proofs.Console.Arguments
import Reckoner.Proofs.Console.Complaint
import Reckoner.Proofs.Console.Reading

/-! Runs on the lines of the input. Each line has its own answer, a fault on one line disturbs no other,
and the last complaint says whether reading was cut short or how many lines were faults. On the error
output a record of the log that leaves a control string open takes the next complaint into its line. -/

namespace Reckoner.Console
open Text

variable (settings : Settings)

theorem countFailures_eq (answers : List Answer) :
    countFailures answers = Int32.ofNat (answers.countP Answer.failed) := by
  have counted : ∀ count : Nat,
      answers.foldl (fun failures answer => if answer.failed then failures + 1 else failures)
        (Int32.ofNat count) = Int32.ofNat (count + answers.countP Answer.failed) := by
    induction answers with
    | nil => exact fun _ => rfl
    | cons answer rest ih =>
      intro count
      rw [List.foldl_cons, List.countP_cons]
      cases answer.failed with
      | false => exact ih count
      | true =>
        have next := ih (count + 1)
        rw [Int32.ofNat_add] at next
        rw [if_pos rfl, if_pos rfl, Nat.add_comm _ 1, ← Nat.add_assoc]
        exact next
  have total := counted 0
  rw [Nat.zero_add] at total
  exact total

theorem countFailures_answers (texts : List String) :
    countFailures (texts.map (answer settings)) =
      Int32.ofNat (texts.filterMap settings.complaint?).length := by
  rw [countFailures_eq, List.countP_map, List.length_filterMap_eq_countP]
  congr 2
  funext text
  exact failed_answer settings text

section Entries
open Report

end Entries

section
variable {input : List UInt8} {texts : List String} {broken : Bool} (reads : Reads input texts broken)

include reads

theorem runInput_of_reads :
    runInput settings input =
      ⟨if broken || 0 < Int32.ofNat (texts.filterMap settings.complaint?).length then 1 else 0,
        texts.flatMap settings.printed,
        opening settings ++ settings.record [.readingInput] ++
          (texts.map (answer settings)).flatMap Answer.reports ++
            closing (Int32.ofNat (texts.filterMap settings.complaint?).length) broken⟩ := by
  have outputs : (texts.map (answer settings)).flatMap Answer.output = texts.flatMap settings.printed := by
    rw [List.flatMap_map]
    congr 1
    funext text
    exact output_answer settings text
  rw [runInput, reads.readLines]
  simp only [countFailures_answers, outputs]

variable (few : (texts.filterMap settings.complaint?).length < 2 ^ 31)

include few

end

end Reckoner.Console
