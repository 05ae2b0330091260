import Crossmap.CommandLine.Arguments
import Crossmap.Conversion.Supervised
import Crossmap.Delimited.Directory
import Crossmap.Files.Documents
import Crossmap.Text.Printable
import Crossmap.Toml.Reader

/-!
# Carrying out commands

`CommandLine.run` carries out a command line on a tree of files: what is printed, with what code the
program ends, and what the files are then. It depends on nothing else but a source of idents.
-/

namespace Crossmap

/-- Why a command failed. -/
inductive CommandError where
  /-- A schema or a mapping model cannot be read. -/
  | document (e : DocumentError)
  | supervision (e : SupervisionError)
  | unreadable (path : String) (cause : FileError)
  | unwritable (path : String) (cause : FileError)
  /-- The character between fields is not ASCII. -/
  | badDelimiter (c : Char)
  /-- The program was built without databases. -/
  | noDatabase
  | badSettings
  /-- The mapping model does not fit the schema. -/
  | unfitModel (messages : List String)
  deriving DecidableEq, Inhabited

/-- The messages of a failed supervised conversion and of what caused it. -/
def SupervisionError.chain (e : SupervisionError) : List String :=
  match e with
  | .storage cause => [e.message, cause.message]
  | .conversion (.resolution cause) =>
    [e.message, (ConversionError.resolution cause).message, cause.message]
  | .conversion (.storage cause) =>
    [e.message, (ConversionError.storage cause).message, cause.message]
  | _ => [e.message]

namespace CommandError

/-- The messages of an error and of what caused it. -/
def chain : CommandError → List String
  | .document e => e.chain
  | .supervision e => e.chain
  | .unreadable path cause => ["Failed to read file " ++ path ++ ": " ++ cause.message]
  | .unwritable path cause => ["Failed to write file " ++ path ++ ": " ++ cause.message]
  | .badDelimiter c => ["Invalid argument: Delimiter must be ASCII: " ++ Text.quotedChar c]
  | .noDatabase => ["Invalid argument: duckdb endpoints require the duckdb-backend feature"]
  | .badSettings => ["Invalid configuration: not the TOML text of settings"]
  | .unfitModel messages => ["LM has " ++ natText messages.length ++ " error(s)"]

/-- The code with which the program ends: two where a mapping model does not fit the schema. -/
def exitCode : CommandError → Nat
  | .unfitModel _ => 2
  | .supervision (.unfitModels _) => 2
  | _ => 1

/-- What is printed for an error: first the messages of what does not fit in a model. -/
def report (e : CommandError) : String :=
  let findings := match e with
    | .unfitModel messages => messages
    | _ => []
  String.join (findings.map (· ++ "\n"))
    ++ "convconf error: " ++ Text.joinWith ": " e.chain ++ "\n"

end CommandError

/-- A tree of files and a source of idents, on which commands act. -/
structure Workplace (γ : Type) where
  files : FileTree
  idents : γ

/-- A command in progress: it ends with what it prints or fails, and changes files in either
case. -/
abbrev CommandRun (γ α : Type) := ExceptT CommandError (StateM (Workplace γ)) α

namespace CommandRun

variable {γ : Type}

/-- Reads something from the files. -/
def fromFiles {ε α : Type} (wrap : ε → CommandError) (f : FileTree → Except ε α) :
    CommandRun γ α := do
  match f (← get).files with
  | .ok a => return a
  | .error e => throw (wrap e)

/-- Writes a file. -/
def writeFile (path text : String) : CommandRun γ Unit := do
  let w ← get
  match w.files.write path (Text.Utf8.bytes text) with
  | .ok files => set { w with files := files }
  | .error e => throw (.unwritable path e)

/-- A schema with its name, and two mapping models. -/
structure Loaded where
  /-- The name of the file of the schema. -/
  schemaName : String
  schema : Schema
  source : Mapping.Model
  target : Mapping.Model

/-- Reads a schema and two mapping models. -/
def load (paths : ModelPaths) : CommandRun γ Loaded := do
  let schema ← fromFiles (.document ∘ .schema) (·.readSchema paths.schema)
  let source ← fromFiles (.document ∘ .model) (·.readModel paths.source)
  let target ← fromFiles (.document ∘ .model) (·.readModel paths.target)
  return ⟨(PathText.fileName? paths.schema).getD paths.schema, schema, source, target⟩

/-- Holds a mapping model against a schema. -/
def checkModel (schema model : String) : CommandRun γ String := do
  let messages ← fromFiles .document (·.checkModel schema model)
  if messages.isEmpty then return "LM valid\n" else throw (.unfitModel messages)

/-- The plan of a conversion under settings. -/
def makePlan (settings : Settings) (l : Loaded) : CommandRun γ Plan :=
  match settings.plan l.schemaName l.schema l.source l.target with
  | .ok plan => pure plan
  | .error e => throw (.supervision e)

/-- Writes the plan of a conversion. -/
def plan (paths : ModelPaths) (out : String) : CommandRun γ String := do
  let plan ← makePlan .standard (← load paths)
  writeFile out plan.text
  return "Plan written: " ++ out ++ "\n"

/-- The settings of a file, or the standard ones where no file is named. -/
def readSettings : Option String → CommandRun γ Settings
  | none => pure .standard
  | some path => do
    let text ← fromFiles (.unreadable path) (·.readText path)
    match (Toml.read? text).bind Settings.ofDocument? with
    | some settings => return settings
    | none => throw .badSettings

/-- The settings of a conversion: those of its file, overruled by its arguments. -/
def settingsFor (a : ConvertArguments) : CommandRun γ Settings := do
  let settings ← readSettings a.settings
  let settings := if a.traceOut.isSome then { settings with trace := true } else settings
  return if a.noValidate then settings.withoutDataChecks else settings

/-- The directory of tables that an endpoint is. -/
def tablesAt (kind : EndpointKind) (path : String) (delimiter : Char) :
    CommandRun γ TableDirectory :=
  match kind with
  | .duckdb => throw .noDatabase
  | .csv =>
    if delimiter.toNat < 0x80 then pure ⟨path, delimiter.toNat.toUInt8⟩
    else throw (.badDelimiter delimiter)

/-- Carries out a plan between two directories of tables. -/
def execute [IdentSource γ] (settings : Settings) (schema : Schema) (plan : Plan)
    (source target : TableDirectory) : CommandRun γ Outcome := do
  let w ← get
  let session : Session TableDirectories γ := ⟨⟨source, target, w.files⟩, w.idents, .discard⟩
  let (r, after) := (settings.execute schema plan).exec session
  set (Workplace.mk after.stores.files after.idents)
  match r with
  | .ok outcome => return outcome
  | .error e => throw (.supervision e)

/-- The lines of a trace. -/
def traceText (events : List TraceEvent) : String :=
  String.join (events.map fun e => e.line ++ "\n")

/-- Carries out a conversion. -/
def convert [IdentSource γ] (a : ConvertArguments) : CommandRun γ String := do
  let settings ← settingsFor a
  let l ← load a.models
  let source ← tablesAt a.sourceKind a.source a.delimiter
  let target ← tablesAt a.targetKind a.target a.delimiter
  let plan ← makePlan settings l
  let outcome ← execute settings l.schema plan source target
  if let some path := a.traceOut then writeFile path (traceText outcome.trace)
  return "Converted " ++ natText outcome.records.length ++ " record(s), wrote "
    ++ natText outcome.rowTotal ++ " row(s)\n"

/-- Carries out a command. -/
def ofCommand [IdentSource γ] : Command → CommandRun γ String
  | .checkModel schema model => checkModel schema model
  | .plan models out => plan models out
  | .convert arguments => convert arguments

end CommandRun

/-- How the program ends. -/
structure Ending where
  code : Nat
  output : String
  errors : String
  files : FileTree

namespace CommandLine

/-- How the program is called. -/
def usage : String := "Usage: convconf [OPTIONS] <check-lm|plan|convert|help>\n"

/-- What is printed as help. -/
def helpText : String :=
  "Declarative data conversion through canonical records\n\n" ++ usage
    ++ "\nCommands:\n"
    ++ "  check-lm  --km <KM> --lm <LM>\n"
    ++ "  plan      --km <KM> --source-lm <LM> --target-lm <LM> --out <OUT>\n"
    ++ "  convert   --km <KM> --source-lm <LM> --target-lm <LM> --source <DIR> --target <DIR>\n"
    ++ "            [--source-type <csv|duckdb>] [--target-type <csv|duckdb>]\n"
    ++ "            [--delimiter <CHAR>] [--trace-out <OUT>] [--no-validate] [--config <TOML>]\n"
    ++ "\nOptions:\n"
    ++ "  -v, --verbose  Verbose mode\n"
    ++ "  -h, --help     Print help\n"
    ++ "  -V, --version  Print version\n"

/-- What is printed as version. -/
def versionText : String := "convconf 0.3.0\n"

/-- How the program ends that is given a command line. -/
def run {γ : Type} [IdentSource γ] (files : FileTree) (idents : γ) (words : List String) :
    Ending :=
  match Command.read words with
  | .error .help => ⟨0, helpText, "", files⟩
  | .error .version => ⟨0, versionText, "", files⟩
  | .error (.error e) => ⟨2, "", "error: " ++ e.message ++ "\n\n" ++ usage, files⟩
  | .ok command =>
    match (ExceptT.run (CommandRun.ofCommand command)).run ⟨files, idents⟩ with
    | (.ok output, after) => ⟨0, output, "", after.files⟩
    | (.error e, after) => ⟨e.exitCode, "", e.report, after.files⟩

end CommandLine

end Crossmap
