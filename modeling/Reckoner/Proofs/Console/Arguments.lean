import Reckoner.Console.Command

/-! Requests in arguments. All settings can be asked for, and so can an expression along with them; what
then runs depends on nothing else among the arguments. -/

namespace Reckoner.Console

namespace Given

def settings (given : Given) : Settings :=
  ⟨given.alphabet.getD Calculator.standardAlphabet, given.showRpn, given.severity.getD .warn⟩

theorem ofArguments_eq_ok_iff (arguments : List String) (given : Given) :
    ofArguments arguments = .ok given ↔
      arguments.foldlM take {} = .ok given ∧ given.awaiting = none := by
  rw [ofArguments]
  cases taken : arguments.foldlM take {} with
  | error stop => simp [bind, Except.bind]
  | ok last =>
    cases awaited : last.awaiting with
    | some option =>
      simp only [bind, Except.bind, awaited, reduceCtorEq, Except.ok.injEq, false_iff, not_and]
      rintro rfl
      simp [awaited]
    | none =>
      simp only [bind, Except.bind, awaited, Except.ok.injEq]
      constructor
      · rintro rfl
        exact ⟨rfl, awaited⟩
      · exact And.left

theorem ofArguments_append (front back : List String) (given last : Given)
    (taken : ofArguments front = .ok given) (added : back.foldlM take given = .ok last)
    (complete : last.awaiting = none) : ofArguments (front ++ back) = .ok last := by
  rw [ofArguments_eq_ok_iff] at taken ⊢
  rw [List.foldlM_append, taken.1]
  exact ⟨added, complete⟩

theorem foldlM_take_cons {given next : Given} {argument : String} (rest : List String)
    (first : given.take argument = .ok next) :
    (argument :: rest).foldlM take given = rest.foldlM take next := by
  rw [List.foldlM_cons, first]
  rfl

theorem ofGiven_eq (given : Given) (nonempty : given.settings.alphabet ≠ "") :
    Command.ofGiven given =
      given.expression.elim (.runInput given.settings) (.runExpression given.settings) := by
  have usable : ¬ (given.alphabet.getD Calculator.standardAlphabet).isEmpty = true := by
    rw [String.isEmpty_iff]
    exact nonempty
  rw [Command.ofGiven, if_neg usable]
  cases given.expression with
  | none => rfl
  | some expression => rfl

theorem take_assignment (given : Given) (option : ValueOption) (value : String)
    (options : given.literal = false) (complete : given.awaiting = none) :
    given.take (option.name ++ "=" ++ value) = given.assign option value := by
  cases option with
  | alphabet => simp [take, takeName, ValueOption.name, options, complete]
  | severity => simp [take, takeName, ValueOption.name, options, complete]

theorem take_postfix (given : Given) (options : given.literal = false)
    (complete : given.awaiting = none) : given.take "--postfix" = given.setShowRpn := by
  simp [take, takeName, options, complete]

theorem take_expression (given : Given) (expression : String) (options : given.literal = false)
    (complete : given.awaiting = none) (plain : ∀ c rest, expression.toList ≠ '-' :: c :: rest) :
    given.take expression = given.setExpression expression := by
  rw [take, options, complete]
  simp only [Bool.false_eq_true, if_false]
  split
  next wrong _ => cases wrong
  next wrong _ => cases wrong
  next dashed => exact absurd dashed (plain _ _)
  next dashed => exact absurd dashed (plain _ _)
  next dashed => exact absurd dashed (plain _ _)
  next => rfl

theorem setExpression_of_none (given : Given) (expression : String) (absent : given.expression = none) :
    given.setExpression expression = .ok { given with expression := some expression } := by
  rw [setExpression, absent]
  rfl

end Given

/-- Arguments for settings, and for an expression if there is one. -/
def Asks (arguments : List String) (expression : Option String) (settings : Settings) : Prop :=
  ∃ given, Given.ofArguments arguments = .ok given ∧ given.expression = expression ∧
    given.settings = settings

theorem Asks.command {arguments : List String} {expression : Option String} {settings : Settings}
    (asks : Asks arguments expression settings) (nonempty : settings.alphabet ≠ "") :
    Command.ofArguments arguments =
      expression.elim (.runInput settings) (.runExpression settings) := by
  obtain ⟨given, taken, rfl, rfl⟩ := asks
  rw [Command.ofArguments, taken]
  exact given.ofGiven_eq nonempty

def positional (expression : String) : List String :=
  match expression.toList with
  | '-' :: _ :: _ => ["--", expression]
  | _ => [expression]

def Settings.arguments (settings : Settings) : List String :=
  [ValueOption.alphabet.name ++ "=" ++ settings.alphabet,
    ValueOption.severity.name ++ "=" ++ settings.severity.option] ++
      if settings.showRpn then ["--postfix"] else []

theorem Given.ofArguments_arguments (settings : Settings) :
    Given.ofArguments settings.arguments =
      .ok ⟨none, some settings.alphabet, some settings.severity, settings.showRpn, none, false⟩ := by
  obtain ⟨alphabet, showRpn, severity⟩ := settings
  have known : Severity.ofOption? severity.option = some severity := by cases severity <;> rfl
  rw [Given.ofArguments_eq_ok_iff, Settings.arguments, List.cons_append]
  refine ⟨?_, rfl⟩
  have first : Given.take {} (ValueOption.alphabet.name ++ "=" ++ alphabet) =
      .ok { alphabet := some alphabet } := Given.take_assignment _ .alphabet alphabet rfl rfl
  have second : Given.take { alphabet := some alphabet }
      (ValueOption.severity.name ++ "=" ++ severity.option) =
        .ok { alphabet := some alphabet, severity := some severity } := by
    rw [Given.take_assignment _ .severity _ rfl rfl, Given.assign, known]
    rfl
  rw [Given.foldlM_take_cons _ first, List.cons_append, Given.foldlM_take_cons _ second]
  cases showRpn with
  | false => rfl
  | true => exact Given.foldlM_take_cons [] (Given.take_postfix _ rfl rfl)

theorem Asks.of_arguments (settings : Settings) : Asks settings.arguments none settings :=
  ⟨_, Given.ofArguments_arguments settings, rfl, rfl⟩

theorem Asks.append_positional {arguments : List String} {given : Given}
    (taken : Given.ofArguments arguments = .ok given) (absent : given.expression = none)
    (options : given.literal = false) (expression : String) :
    Asks (arguments ++ positional expression) (some expression) given.settings := by
  have complete := ((Given.ofArguments_eq_ok_iff _ _).1 taken).2
  unfold positional
  split
  next c rest dashed =>
    refine ⟨{ given with expression := some expression, literal := true },
      Given.ofArguments_append _ _ given _ taken ?_ complete, rfl, rfl⟩
    have marked : given.take "--" = .ok { given with literal := true } := by
      simp [Given.take, options, complete]
    have set : Given.take { given with literal := true } expression =
        .ok { given with expression := some expression, literal := true } := by
      rw [Given.take, if_pos rfl]
      exact Given.setExpression_of_none _ expression absent
    rw [Given.foldlM_take_cons _ marked, Given.foldlM_take_cons _ set]
    rfl
  next plain =>
    refine ⟨{ given with expression := some expression },
      Given.ofArguments_append _ _ given _ taken ?_ complete, rfl, rfl⟩
    have set : given.take expression = .ok { given with expression := some expression } := by
      rw [given.take_expression expression options complete plain,
        given.setExpression_of_none expression absent]
    rw [Given.foldlM_take_cons _ set]
    rfl

theorem Asks.of_arguments_append (settings : Settings) (expression : String) :
    Asks (settings.arguments ++ positional expression) (some expression) settings :=
  Asks.append_positional (Given.ofArguments_arguments settings) rfl rfl expression

end Reckoner.Console
