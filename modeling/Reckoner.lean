import Reckoner.Main
import Reckoner.Proofs.Infix.Alternation
import Reckoner.Proofs.Infix.Cut
import Reckoner.Proofs.Formula.Traversal
import Reckoner.Proofs.Formula.Order
import Reckoner.Proofs.Formula.Value
import Reckoner.Proofs.Ranking.Order
import Reckoner.Proofs.Number.Plain
import Reckoner.Proofs.Number.Positional
import Reckoner.Proofs.Number.Native
import Reckoner.Proofs.Number.Characters
import Reckoner.Proofs.Rpn.Departures
import Reckoner.Proofs.Rpn.Step
import Reckoner.Proofs.Rpn.Frame
import Reckoner.Proofs.Rpn.Transcript
import Reckoner.Proofs.Token.Canonical
import Reckoner.Proofs.Text.Lines
import Reckoner.Proofs.Display.Range
import Reckoner.Proofs.Calculator.Evaluation
import Reckoner.Proofs.Calculator.Meaning
import Reckoner.Proofs.Calculator.Faults
import Reckoner.Proofs.Calculator.Language
import Reckoner.Proofs.Calculator.Composition
import Reckoner.Proofs.Calculator.Alphabet
import Reckoner.Proofs.Calculator.Meaningless
import Reckoner.Proofs.Calculator.Redisplay
import Reckoner.Proofs.Calculator.Transcript
import Reckoner.Proofs.Console.Arguments
import Reckoner.Proofs.Console.Reading
import Reckoner.Proofs.Console.Answer
import Reckoner.Proofs.Console.Input
import Reckoner.Proofs.Console.Expression
import Reckoner.Proofs.Rpn.Balance
import Reckoner.Proofs.Rpn.Precedence
import Reckoner.Proofs.Rpn.Term
import Reckoner.Proofs.Number.Scientific
import Reckoner.Proofs.Display.Reading
import Reckoner.Proofs.Number.Nearest
import Reckoner.Proofs.Number.Digits
import Reckoner.Proofs.Number.Coarsest
import Reckoner.Proofs.Number.Exact
import Reckoner.Proofs.Number.Whole
import Reckoner.Proofs.Display.Grammar
import Reckoner.Proofs.Display.Whole
import Reckoner.Proofs.Formula.Exact
import Reckoner.Proofs.Calculator.Exact
import Reckoner.Proofs.Rpn.Siding
import Reckoner.Proofs.Stack.History
