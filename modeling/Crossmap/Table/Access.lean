import Crossmap.Table.Row

/-!
# Access to stored rows

A conversion reads rows of named objects from a source and writes batches of rows to a target. Both
are parts of one state, so that what happens to them is one history: `RecordSource ω` reads from a
state of type `ω`, and `RecordTarget ω` writes to it. An access that fails leaves a state as well.

`Endpoints` puts a source and a target side by side.
-/

namespace Crossmap

/-- Why an access to stored rows failed. -/
inductive StorageError where
  | objectNotFound (object : String)
  | ioError (message : String)
  /-- The delimited text of an object cannot be read or written. -/
  | csvError (object message : String)
  | permissionDenied (message : String)
  | databaseError (message : String)
  deriving DecidableEq, Inhabited

/-- The message of a failed access. -/
def StorageError.message : StorageError → String
  | .objectNotFound object => "Object not found: " ++ object
  | .ioError message => "IO error: " ++ message
  | .csvError object message => "CSV error in " ++ object ++ ": " ++ message
  | .permissionDenied message => "Permission denied: " ++ message
  | .databaseError message => "Database error: " ++ message

/-- States from which the rows of an object that satisfy a filter can be read. -/
class RecordSource (ω : Type) where
  /-- Reads the rows of an object that satisfy a filter. -/
  read : String → Filter → ω → Except StorageError (List Row) × ω

/-- States to which a batch of rows can be written under the name of an object. -/
class RecordTarget (ω : Type) where
  write : String → List Row → ω → Except StorageError Unit × ω

/-- A source and a target. -/
structure Endpoints (σ τ : Type) where
  source : σ
  target : τ

namespace Endpoints

variable {σ τ : Type}

instance [RecordSource σ] : RecordSource (Endpoints σ τ) where
  read object filter e :=
    let r := RecordSource.read object filter e.source
    (r.1, { e with source := r.2 })

instance [RecordTarget τ] : RecordTarget (Endpoints σ τ) where
  write object rows e :=
    let r := RecordTarget.write object rows e.target
    (r.1, { e with target := r.2 })

end Endpoints

end Crossmap
