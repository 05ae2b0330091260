import Crossmap.CommandLine.Options

/-!
# Commands

The commands of the program with their arguments: `check-lm` holds a mapping model against a schema,
`plan` writes the plan of a conversion, and `convert` carries a conversion out.
-/

namespace Crossmap

/-- What is read from or written to. -/
inductive EndpointKind where
  | csv
  | duckdb
  deriving DecidableEq, Inhabited

/-- The kind of endpoint of a name. -/
def EndpointKind.ofText? (s : String) : Option EndpointKind :=
  if s = "csv" then some .csv else if s = "duckdb" then some .duckdb else none

/-- The paths of a schema and of two mapping models. -/
structure ModelPaths where
  schema : String
  source : String
  target : String
  deriving DecidableEq, Inhabited

/-- The arguments of a conversion. -/
structure ConvertArguments where
  models : ModelPaths
  sourceKind : EndpointKind
  targetKind : EndpointKind
  source : String
  target : String
  delimiter : Char
  /-- Where the trace goes, if one is wanted. -/
  traceOut : Option String
  /-- Whether rows and records go unchecked. -/
  noValidate : Bool
  settings : Option String
  deriving DecidableEq, Inhabited

/-- A command with its arguments. -/
inductive Command where
  /-- Holds a mapping model against a schema. -/
  | checkModel (schema model : String)
  | plan (models : ModelPaths) (out : String)
  | convert (arguments : ConvertArguments)
  deriving DecidableEq, Inhabited

namespace Command

/-- An option that names a file or directory. -/
def pathOption (name : String) (isRequired : Bool) : OptionRule :=
  ⟨name, none, isRequired, some fun v => !v.isEmpty⟩

/-- The option for more messages, and the one for help. -/
def sharedRules : List OptionRule :=
  [⟨"verbose", some 'v', false, none⟩, ⟨"help", some 'h', false, none⟩]

/-- The options before a command. -/
def leadingRules : List OptionRule := sharedRules ++ [⟨"version", some 'V', false, none⟩]

/-- The options of `check-lm`. -/
def checkRules : List OptionRule := [pathOption "km" true, pathOption "lm" true] ++ sharedRules

/-- The options that name a schema and two models. -/
def modelRules : List OptionRule :=
  [pathOption "km" true, pathOption "source-lm" true, pathOption "target-lm" true]

/-- The options of `plan`. -/
def planRules : List OptionRule := modelRules ++ [pathOption "out" true] ++ sharedRules

/-- An option that names a kind of endpoint. -/
def kindOption (name : String) : OptionRule :=
  ⟨name, none, false, some fun v => (EndpointKind.ofText? v).isSome⟩

/-- The options of `convert`. -/
def convertRules : List OptionRule :=
  modelRules
    ++ [kindOption "source-type", kindOption "target-type", pathOption "source" true,
      pathOption "target" true, ⟨"delimiter", none, false, some fun v => v.length = 1⟩,
      pathOption "trace-out" false, ⟨"no-validate", none, false, none⟩, pathOption "config" false]
    ++ sharedRules

/-- The value of an option that has been given. -/
def value (given : List GivenOption) (name : String) : String :=
  (GivenOption.value? given name).getD ""

/-- The paths of the schema and the models. -/
def modelPaths (given : List GivenOption) : ModelPaths :=
  ⟨value given "km", value given "source-lm", value given "target-lm"⟩

/-- The kind of an endpoint. -/
def kind (given : List GivenOption) (name : String) : EndpointKind :=
  ((GivenOption.value? given name).bind EndpointKind.ofText?).getD .csv

/-- The arguments of a conversion. -/
def convertArguments (given : List GivenOption) : ConvertArguments where
  models := modelPaths given
  sourceKind := kind given "source-type"
  targetKind := kind given "target-type"
  source := value given "source"
  target := value given "target"
  delimiter := ((GivenOption.value? given "delimiter").bind (·.toList.head?)).getD ','
  traceOut := GivenOption.value? given "trace-out"
  noValidate := (GivenOption.value? given "no-validate").isSome
  settings := GivenOption.value? given "config"

/-- The names of the commands. -/
def names : List String := ["check-lm", "plan", "convert", "help"]

/-- Reads the words after `help`, which may name one command. -/
def help : List String → Interruption
  | [] => .help
  | name :: rest =>
    match (if name ∈ names then rest.head? else some name) with
    | none => .help
    | some word => .error (.unknownWord word)

/-- Reads a command line. -/
def read (words : List String) : Except Interruption Command := do
  match ← OptionRule.read leadingRules [] words with
  | (_, []) => .error (.error .missingCommand)
  | (_, "check-lm" :: rest) =>
    let given ← OptionRule.readAll checkRules rest
    return .checkModel (value given "km") (value given "lm")
  | (_, "plan" :: rest) =>
    let given ← OptionRule.readAll planRules rest
    return .plan (modelPaths given) (value given "out")
  | (_, "convert" :: rest) =>
    return .convert (convertArguments (← OptionRule.readAll convertRules rest))
  | (_, "help" :: rest) => .error (help rest)
  | (_, word :: _) => .error (.error (.unknownWord word))

end Command

end Crossmap
