import Reckoner.Event

/-!
Command line options. Arguments are taken one after another, and the first one that settles the matter
does: a request for the version, a request for help, or a misuse.
-/

namespace Reckoner.Console

inductive ValueOption
  | alphabet
  | severity
  deriving DecidableEq, Repr

def ValueOption.name : ValueOption → String
  | .alphabet => "--operators"
  | .severity => "--log-level"

inductive Misuse
  | unknownOption (text : String)
  | missingValue (option : ValueOption)
  | needlessValue (option : String)
  | repeatedOption (option : String)
  | unknownSeverity (text : String)
  | secondExpression (text : String)
  deriving DecidableEq, Repr

/-- What is wrong with the arguments, in free wording. The status of all misuse is the same. -/
def Misuse.message : Misuse → String
  | .unknownOption text => "unknown option '" ++ text ++ "'"
  | .missingValue option => "option '" ++ option.name ++ "' needs a value"
  | .needlessValue option => "option '" ++ option ++ "' takes no value"
  | .repeatedOption option => "option '" ++ option ++ "' is given twice"
  | .unknownSeverity text => "unknown log level '" ++ text ++ "'"
  | .secondExpression text => "unexpected argument '" ++ text ++ "'"

inductive Stop
  | version
  | help
  | misuse (cause : Misuse)
  deriving DecidableEq, Repr

/-- The arguments taken so far, the option whose value is the next one, and whether all further ones
are expressions. -/
structure Given where
  expression : Option String := none
  alphabet : Option String := none
  severity : Option Severity := none
  showRpn : Bool := false
  awaiting : Option ValueOption := none
  literal : Bool := false
  deriving DecidableEq, Repr

namespace Given

def setExpression (given : Given) (text : String) : Except Stop Given :=
  if given.expression.isSome then .error (.misuse (.secondExpression text))
  else .ok { given with expression := some text }

def setShowRpn (given : Given) : Except Stop Given :=
  if given.showRpn then .error (.misuse (.repeatedOption "--postfix"))
  else .ok { given with showRpn := true }

def assign (given : Given) (option : ValueOption) (value : String) : Except Stop Given :=
  match option with
  | .alphabet =>
    if given.alphabet.isSome then .error (.misuse (.repeatedOption option.name))
    else .ok { given with alphabet := some value, awaiting := none }
  | .severity =>
    match Severity.ofOption? value with
    | none => .error (.misuse (.unknownSeverity value))
    | some severity =>
      if given.severity.isSome then .error (.misuse (.repeatedOption option.name))
      else .ok { given with severity := some severity, awaiting := none }

/-- Takes the letters of short options. The rest after an option with a value is the value, with or
without an equals sign; if there is no rest, the next argument is. -/
def takeLetters (given : Given) : List Char → Except Stop Given
  | [] => .ok given
  | 'p' :: rest => do (← given.setShowRpn).takeLetters rest
  | 'o' :: rest => valueAfter .alphabet rest
  | 'l' :: rest => valueAfter .severity rest
  | 'V' :: _ => .error .version
  | 'h' :: _ => .error .help
  | c :: _ => .error (.misuse (.unknownOption (String.ofList ['-', c])))
where
  valueAfter (option : ValueOption) : List Char → Except Stop Given
    | [] => .ok { given with awaiting := some option }
    | '=' :: value => given.assign option (String.ofList value)
    | value => given.assign option (String.ofList value)

def takeName (given : Given) (name : List Char) (value : Option String) : Except Stop Given :=
  let withValue (option : ValueOption) : Except Stop Given :=
    match value with
    | some text => given.assign option text
    | none => .ok { given with awaiting := some option }
  let withoutValue (result : Except Stop Given) : Except Stop Given :=
    if value.isSome then .error (.misuse (.needlessValue (String.ofList ('-' :: '-' :: name))))
    else result
  if name = "operators".toList then withValue .alphabet
  else if name = "log-level".toList then withValue .severity
  else if name = "postfix".toList then withoutValue given.setShowRpn
  else if name = "version".toList then withoutValue (.error .version)
  else if name = "help".toList then withoutValue (.error .help)
  else .error (.misuse (.unknownOption (String.ofList ('-' :: '-' :: name))))

/-- Takes one argument. An option's value on its own must not look like an option, and a dash alone
does not. -/
def take (given : Given) (argument : String) : Except Stop Given :=
  if given.literal then given.setExpression argument
  else match given.awaiting, argument.toList with
    | some option, '-' :: _ :: _ => .error (.misuse (.missingValue option))
    | some option, _ => given.assign option argument
    | none, ['-', '-'] => .ok { given with literal := true }
    | none, '-' :: '-' :: long =>
      match long.dropWhile (· != '=') with
      | [] => given.takeName long none
      | _ :: value => given.takeName (long.takeWhile (· != '=')) (some (String.ofList value))
    | none, '-' :: c :: letters => given.takeLetters (c :: letters)
    | none, _ => given.setExpression argument

def ofArguments (arguments : List String) : Except Stop Given := do
  let given ← arguments.foldlM take {}
  match given.awaiting with
  | some option => .error (.misuse (.missingValue option))
  | none => .ok given

end Given
end Reckoner.Console
