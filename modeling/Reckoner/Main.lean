import Reckoner.Console.Command

open Reckoner.Console

def main (arguments : List String) : IO UInt32 := do
  let command := Command.ofArguments arguments
  let input ← if command.readsInput then (← IO.getStdin).readBinToEnd else pure .empty
  let outcome := command.run input.toList
  IO.print outcome.outputText
  IO.eprint outcome.errorText
  return outcome.status
