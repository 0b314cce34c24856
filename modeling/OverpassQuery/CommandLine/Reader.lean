import OverpassQuery.CommandLine.AreaCommand
import OverpassQuery.Configuration

/-!
# Reading a command line

The options of the program come first, then the command that names the area with
its own options. A faulty command is reported before an option in front of it
whose value was still to be looked at, and both before a faulty variable of the
environment, which counts only when the option that it stands for is absent.
-/

set_option autoImplicit false

namespace OverpassQuery

namespace CommandLine

/-- The variable of the environment that stands for the limit of rounds. -/
def attemptsVariable : String := "OSMQUERY_MAX_ATTEMPTS"

/-- The options of the program as far as they are given. -/
structure OptionsDraft where
  configurationFile : Option String := none
  network : StreetNetwork := .drive
  wayTags : Option String := none
  relationTags : Option String := none
  format : OutputFormat := .xml
  csvOptions : Option String := none
  metadata : Bool := false
  maxAttempts : Option Nat := none
  output : String := Invocation.standardOutput
  printsQuery : Bool := false
  isVerbose : Bool := false

/-! ## Rules for values -/

/-- A rule for a value out of a list of names. -/
def choiceRule {α β : Type} (option : String) (choices : List (String × β)) (set : β → α → α) :
    ValueRule α where
  takesNegative := false
  store text draft :=
    match choices.lookup text with
    | some choice => .ok (set choice draft)
    | none => .error (.invalidValue option text)

/-- The limit of rounds that a text spells: digits with an optional sign. -/
def rounds? (text : String) : Option Nat := do
  let (negative, digits) := Decimal.splitSign text.toList
  let magnitude ← Decimal.naturalOfDigits? digits
  if (negative ∧ magnitude ≠ 0) ∨ Configuration.maxRounds < magnitude then none else some magnitude

/-- The rule for the limit of rounds. -/
def roundsRule : ValueRule OptionsDraft where
  takesNegative := false
  store text draft :=
    match rounds? text with
    | some rounds => .ok { draft with maxAttempts := some rounds }
    | none => .error (.malformedValue "max-attempts" text)

/-! ## Options -/

/-- The networks under their names. -/
def networkChoices : List (String × StreetNetwork) :=
  StreetNetwork.kinds.map fun network => (network.name, network)

/-- The formats under their names. -/
def formatChoices : List (String × OutputFormat) :=
  OutputFormat.all.map fun format => (format.name, format)

/-- The name of the command for help. -/
def helpCommand : String := "help"

/-- The options of the program. -/
def programGrammar : Grammar OptionsDraft where
  options :=
    [⟨"config", some 'c', .value (pathRule "config" fun path draft =>
        { draft with configurationFile := some path })⟩,
      ⟨"preset", some 'p', .value (choiceRule "preset" networkChoices fun network draft =>
        { draft with network := network })⟩,
      ⟨"way-tags", none, .value (textRule fun tags draft => { draft with wayTags := some tags })⟩,
      ⟨"relation-tags", none, .value (textRule fun tags draft =>
        { draft with relationTags := some tags })⟩,
      ⟨"format", some 'f', .value (choiceRule "format" formatChoices fun format draft =>
        { draft with format := format })⟩,
      ⟨"csv-options", none, .value (textRule fun columns draft =>
        { draft with csvOptions := some columns })⟩,
      ⟨"metadata", none, .flag fun draft => { draft with metadata := true }⟩,
      ⟨"max-attempts", none, .value roundsRule⟩,
      ⟨"output", some 'o', .value (pathRule "output" fun path draft =>
        { draft with output := path })⟩,
      ⟨"print-query", none, .flag fun draft => { draft with printsQuery := true }⟩,
      ⟨"verbose", some 'v', .flag fun draft => { draft with isVerbose := true }⟩,
      helpOption _,
      ⟨"version", some 'V', .version⟩]
  operand := none
  commands := areaCommands ++ [helpCommand]

/-! ## Invocations -/

/-- The answer to the command for help with the words after it, which may lead to one
command. -/
def helpFor : List String → UsageError
  | [] => .helpRequested
  | [name] => if name ∈ programGrammar.commands then .helpRequested else .unknownCommand name
  | name :: other :: _ =>
      .unknownCommand (if name ∈ programGrammar.commands then other else name)

/-- The area that a command names, or help. -/
def readCommand (command : String) (words : List String) : Except UsageError AreaRequest :=
  if command = helpCommand then .error (helpFor words) else readArea command words

/-- A reading with the limit of rounds taken from the environment if the option is absent. -/
def withVariable (environment : Option String) (reading : Reading OptionsDraft) :
    Except UsageError (Reading OptionsDraft) :=
  match environment with
  | none => .ok reading
  | some value =>
      if "max-attempts" ∈ reading.given then .ok reading
      else reading.store "max-attempts" roundsRule value

/-- The invocation that options and an area make. -/
def OptionsDraft.invocation (draft : OptionsDraft) (area : AreaRequest) : Invocation where
  configurationFile := draft.configurationFile
  network := draft.network
  wayTags := draft.wayTags
  relationTags := draft.relationTags
  format := draft.format
  csvOptions := draft.csvOptions
  metadata := draft.metadata
  maxAttempts := draft.maxAttempts
  output := draft.output
  printsQuery := draft.printsQuery
  isVerbose := draft.isVerbose
  area := area

/-- The invocation that a command line spells, with the value of the variable of the
environment. -/
def read (environment : Option String) (words : List String) : Except UsageError Invocation := do
  let (reading, command) ← (Reading.start {}).takeWords programGrammar words
  let area ← command.mapM fun (name, rest) => readCommand name rest
  let reading ← withVariable environment (← reading.settle)
  match area with
  | some area => return reading.draft.invocation area
  | none => .error (if reading.given = [] then .nothingGiven else .missingCommand)

end CommandLine

end OverpassQuery
