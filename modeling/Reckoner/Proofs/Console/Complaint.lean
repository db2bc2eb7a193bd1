import Mathlib.Data.List.Forall2
import Reckoner.Proofs.Console.Record

/-! Complaints among the lines of the error output. A complaint ends a line of its own. It is the whole
line if the entry before it ended one, and no other line can be taken for a complaint. -/

namespace Reckoner
open Text

namespace Console

/-- A text of the log at the start of a line: no line in it begins as a complaint does. -/
structure Quiet (text : List Char) : Prop where
  indented : Indented text
  begun : ∃ c rest, text = c :: rest ∧ c ≠ '\n' ∧ c ≠ 'E'

namespace Quiet

theorem append {front back : List Char} (quiet : Quiet front) (indented : Indented back) :
    Quiet (front ++ back) := by
  obtain ⟨c, rest, rfl, other⟩ := quiet.begun
  exact ⟨quiet.indented.append indented, c, rest ++ back, rfl, other⟩

end Quiet

namespace Report

/-- The complaints that are whole lines. Whether an entry starts a line is settled by the one before it. -/
def whole : Bool → List Report → List String
  | _, [] => []
  | fresh, report :: rest => (if fresh then report.complaint?.toList else []) ++
      whole report.endsLine rest

end Report

section Answers
open Report

variable (settings : Settings) (expression : String)

variable {fresh : Bool} (ready : fresh = true ∨ settings.severity = .info)
include ready

end Answers
end Console
end Reckoner
