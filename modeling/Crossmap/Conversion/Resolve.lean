import Crossmap.Mapping.Model
import Crossmap.Table.Access
import Crossmap.Text.Blank

/-!
# Resolving values through value maps

`Model.forward` leads from the text of a code to its path and `Model.backward` from a path to the
only code that has it. Absent values, the text `@` and values without a value map pass unchanged in
both directions.
-/

namespace Crossmap

/-- Why a value or an ident cannot be resolved. -/
inductive ResolutionError where
  /-- The model declares no value map of the name. -/
  | unknownValueMap (map : String)
  | invalidCode (map value : String)
  | unresolvableValue (map value : String)
  | ambiguousValue (map value : String) (codes : List Code)
  /-- The ident column of a row holds nothing. -/
  | missingIdent (object column : String)
  deriving DecidableEq, Inhabited

/-- The message of a failed resolution. -/
def ResolutionError.message : ResolutionError → String
  | .unknownValueMap map => "Unknown value map " ++ map
  | .invalidCode map value =>
    "Value '" ++ value ++ "' is not an integer code of value map " ++ map
  | .unresolvableValue map value => "Value '" ++ value ++ "' has no entry in value map " ++ map
  | .ambiguousValue map value codes =>
    "Value '" ++ value ++ "' matches several codes in value map " ++ map ++ ": ["
      ++ Text.joinWith ", " (codes.map Code.text) ++ "]"
  | .missingIdent object column => "Missing ident value in column " ++ column ++ " of " ++ object

/-- Why a conversion failed. -/
inductive ConversionError where
  /-- A value or an ident cannot be resolved. -/
  | resolution (e : ResolutionError)
  | storage (e : StorageError)
  deriving DecidableEq, Inhabited

/-- The message of a failed conversion. -/
def ConversionError.message : ConversionError → String
  | .resolution e => "Resolution error: " ++ e.message
  | .storage e => "Storage error: " ++ e.message

/-- The code that a text writes, with white space around it. -/
def Code.ofText? (s : String) : Option Code := Code.read? (Text.strip s.toList)

namespace Mapping.Model

/-- The value map of a name, which has to be declared. -/
def requireMap (m : Model) (name : String) : Except ResolutionError ValueMap :=
  match m.valueMap? name with
  | some map => .ok map
  | none => .error (.unknownValueMap name)

/-- The path of the code that a text writes. A code without a path leads to nothing. -/
def forwardThrough (m : Model) (name value : String) : Except ResolutionError (Option String) :=
  if value = passThrough then .ok (some value)
  else do
    let map ← m.requireMap name
    match Code.ofText? value with
    | some code => return map.path? code
    | none => throw (.invalidCode name value)

/-- Leads a value from a column to a path. -/
def forward (m : Model) (map : Option String) (value : Option String) :
    Except ResolutionError (Option String) :=
  match map, value with
  | some name, some value => m.forwardThrough name value
  | _, value => .ok value

/-- The only code that has a path. -/
def backwardThrough (m : Model) (name value : String) : Except ResolutionError Cell :=
  if value = passThrough then .ok (.string value)
  else do
    let map ← m.requireMap name
    match map.codesFor value with
    | [code] => return .whole code.toInt
    | [] => throw (.unresolvableValue name value)
    | codes => throw (.ambiguousValue name value codes)

/-- Leads a value from a path to a cell. -/
def backward (m : Model) (map : Option String) (value : Option String) :
    Except ResolutionError Cell :=
  match map, value with
  | _, none => .ok .null
  | none, some value => .ok (.string value)
  | some name, some value => m.backwardThrough name value

end Mapping.Model

end Crossmap
