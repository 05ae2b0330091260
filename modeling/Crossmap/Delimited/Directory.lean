import Crossmap.Delimited.Table
import Crossmap.Files.Tree
import Crossmap.Table.Access

/-!
# Directories of tables

A `TableDirectory` keeps every object in one file of a directory. The name of an object becomes the
name of its file, so it must not lead anywhere else. An object without a file has no rows; a batch
replaces the file, and takes its columns from the first row.
-/

namespace Crossmap

/-- A directory with a file for each object. -/
structure TableDirectory where
  base : String
  delimiter : UInt8
  deriving DecidableEq, Inhabited

namespace TableDirectory

/-- Whether the name of an object could lead out of the directory. -/
def isWayward (object : String) : Bool :=
  Text.occursIn ['.', '.'] object.toList || Text.hasChar '/' object || Text.hasChar '\\' object

/-- The path of the file of an object. -/
def filePath (d : TableDirectory) (object : String) : Except StorageError String :=
  if object.isEmpty then .error (.objectNotFound object)
  else if isWayward object then
    .error (.permissionDenied ("Object name '" ++ object ++ "' must not contain path components"))
  else .ok (PathText.join d.base (object ++ ".csv"))

/-- Reads the rows of an object that satisfy a filter. -/
def read (d : TableDirectory) (object : String) (filter : Filter) (files : FileTree) :
    Except StorageError (List Row) := do
  let path ← d.filePath object
  if !files.isThere path then return []
  let content ← (files.read path).mapError fun e => .csvError object e.message
  let rows ← (Delimited.readTable d.delimiter content).mapError fun e => .csvError object e.message
  return rows.filter fun row => row.satisfies filter

/-- Replaces the file of an object by a batch whose columns are given. -/
def replace (d : TableDirectory) (object path : String) (columns : List String) (rows : List Row)
    (files : FileTree) : Except StorageError Unit × FileTree :=
  match files.makeDirectories d.base with
  | (.error e, files) => (.error (.ioError e.message), files)
  | (.ok (), files) =>
    match files.write path (Delimited.writeTable d.delimiter columns rows) with
    | .ok files => (.ok (), files)
    | .error e => (.error (.csvError object e.message), files)

/-- Writes a batch to an object. An empty batch does nothing, whatever the object is called. -/
def write (d : TableDirectory) (object : String) (rows : List Row) (files : FileTree) :
    Except StorageError Unit × FileTree :=
  match rows with
  | [] => (.ok (), files)
  | first :: _ =>
    match d.filePath object with
    | .error e => (.error e, files)
    | .ok path => d.replace object path first.keys rows files

end TableDirectory

/-- Two directories of one tree of files, of which one is read from and one written to. -/
structure TableDirectories where
  source : TableDirectory
  target : TableDirectory
  files : FileTree

namespace TableDirectories

instance : RecordSource TableDirectories where
  read object filter s := (s.source.read object filter s.files, s)

instance : RecordTarget TableDirectories where
  write object rows s :=
    let r := s.target.write object rows s.files
    (r.1, { s with files := r.2 })

end TableDirectories

end Crossmap
