import Reckoner.Proofs.Console.Answer
import Reckoner.Proofs.Text.ControlSequence

/-! Records of the log. A record has its own line, with further lines set in, unless a message leaves a
control string open: its line end is lost then, and what follows goes on in its line. -/

namespace Reckoner
open Text

namespace Console
namespace Report

def indented (message : List Char) : List Char :=
  message.flatMap fun c => if c = '\n' then "\n    ".toList else [c]

/-- Whether the next entry starts a line. -/
def endsLine (report : Report) : Bool :=
  report.text.toList.getLast? == some '\n'

end Report
end Console
end Reckoner
