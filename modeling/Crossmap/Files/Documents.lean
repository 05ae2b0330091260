import Crossmap.Files.Tree
import Crossmap.Findings.Models
import Crossmap.Mapping.Grammar
import Crossmap.Schema.Codec
import Crossmap.Text.Lowercase

/-!
# Schemas and mapping models in files

The extension of a file says in which format a schema is written. A mapping model that its text does
not name is named after its file.
-/

namespace Crossmap

/-- Why no schema can be read from a file. -/
inductive SchemaError where
  | unreadable (path : String) (cause : FileError)
  | badJson
  | badYaml
  /-- The extension belongs to no format. -/
  | unknownExtension (extension : String)
  deriving DecidableEq, Inhabited

namespace SchemaError

/-- The message of an error. -/
def message : SchemaError → String
  | .unreadable path _ => "Failed to read schema file: " ++ path
  | .badJson => "Invalid JSON schema document: not the JSON text of a schema"
  | .badYaml => "Invalid YAML schema document: not the YAML text of a schema"
  | .unknownExtension extension => "Unsupported schema file extension: " ++ extension

/-- The messages of an error and of what caused it. -/
def chain : SchemaError → List String
  | .unreadable path cause => [(unreadable path cause).message, cause.message]
  | .badJson => [badJson.message, "not the JSON text of a schema"]
  | .badYaml => [badYaml.message, "not the YAML text of a schema"]
  | .unknownExtension extension => [(unknownExtension extension).message]

end SchemaError

/-- Why no mapping model can be read from a file. -/
inductive ModelError where
  | unreadable (path : String) (cause : FileError)
  | malformed (e : Mapping.SyntaxError)
  deriving DecidableEq, Inhabited

namespace ModelError

/-- The message of an error. -/
def message : ModelError → String
  | .unreadable path _ => "Failed to read LM file: " ++ path
  | .malformed e => e.message

/-- The messages of an error and of what caused it. -/
def chain : ModelError → List String
  | .unreadable path cause => [(unreadable path cause).message, cause.message]
  | .malformed e => [e.message]

end ModelError

/-- Why a schema or a mapping model cannot be read from a file. -/
inductive DocumentError where
  | schema (e : SchemaError)
  | model (e : ModelError)
  deriving DecidableEq, Inhabited

namespace DocumentError

/-- The message of an error. -/
def message : DocumentError → String
  | .schema e => "Schema error: " ++ e.message
  | .model e => e.message

/-- The messages of an error and of what caused it. -/
def chain : DocumentError → List String
  | .schema e => ("Schema error: " ++ e.message) :: e.chain
  | .model e => e.chain

end DocumentError

namespace FileTree

/-- Reads the schema of a text in the format that an extension stands for. -/
def schemaOfText (extension text : String) : Except SchemaError Schema :=
  if extension = "json" then
    match Schema.ofJsonText? text with
    | some s => .ok s
    | none => .error .badJson
  else if extension = "yaml" || extension = "yml" then
    match Schema.ofYamlText? text with
    | some s => .ok s
    | none => .error .badYaml
  else .error (.unknownExtension extension)

/-- Reads the schema of a file. -/
def readSchema (t : FileTree) (path : String) : Except SchemaError Schema := do
  let text ← (t.readText path).mapError (.unreadable path)
  schemaOfText (Text.lowercase ((PathText.extension? path).getD "")) text

/-- Reads the mapping model of a file. -/
def readModel (t : FileTree) (path : String) : Except ModelError Mapping.Model := do
  let text ← (t.readText path).mapError (.unreadable path)
  (Mapping.Model.parse ((PathText.stem? path).getD path) text).mapError .malformed

/-- The messages of what does not fit in the mapping model of one file with the schema of another
one. -/
def checkModel (t : FileTree) (schemaPath modelPath : String) :
    Except DocumentError (List String) := do
  let schema ← (t.readSchema schemaPath).mapError .schema
  let model ← (t.readModel modelPath).mapError .model
  return model.check schema

end FileTree

end Crossmap
