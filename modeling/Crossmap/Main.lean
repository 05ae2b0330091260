import Crossmap.CommandLine.Run

/-!
# The program

The program looks at the files that its command line names, lets `CommandLine.run` decide what comes
of them, and then prints and writes that.
-/

namespace Crossmap.Program

/-- What stands under a path; none where nothing can be read. -/
def look (path : FilePath) : IO (Option FileEntry) := do
  try
    let content ← IO.FS.readBinFile (FileTree.pathText path)
    return some (.file content.toList)
  catch e =>
    match e with
    | .inappropriateType _ _ _ => return some .directory
    | _ => return none

/-- Adds to a tree what stands under the names on the way from a directory. -/
def addAlong (t : FileTree) (dir : FilePath) : List String → IO FileTree
  | [] => return t
  | name :: rest => do
    let path := FileTree.follow dir name
    if FileTree.isGround path then addAlong t path rest
    else
      match ← look path with
      | some .directory => addAlong ⟨t.entries.insert path .directory⟩ path rest
      | some entry => return ⟨t.entries.insert path entry⟩
      | none => return t

/-- Adds to a tree what stands under the text of a path. -/
def add (t : FileTree) (path : String) : IO FileTree :=
  addAlong t (FileTree.pathStart path) (FileTree.pathNames path)

/-- The files that a command reads or writes by their own names. -/
def namedFiles : Command → List String
  | .checkModel schema model => [schema, model]
  | .plan models out => [models.schema, models.source, models.target, out]
  | .convert a =>
    [a.models.schema, a.models.source, a.models.target, a.source, a.target]
      ++ a.traceOut.toList ++ a.settings.toList

/-- The files of the objects of a mapping model in a directory of tables. -/
def tableFiles (t : FileTree) (model directory : String) : List String :=
  match t.readModel model with
  | .ok m =>
    (m.data.map (·.object) ++ m.inspections.map (·.object)).filterMap fun object =>
      (TableDirectory.filePath ⟨directory, 0⟩ object).toOption
  | .error _ => []

/-- The files that a command reads or writes because a mapping model names them. -/
def modelledFiles (t : FileTree) : Command → List String
  | .convert a =>
    tableFiles t a.models.source a.source ++ tableFiles t a.models.target a.target
  | _ => []

/-- The files that a command line is about. -/
def snapshot (words : List String) : IO FileTree :=
  match Command.read words with
  | .error _ => return .empty
  | .ok command => do
    let t ← (namedFiles command).foldlM add .empty
    (modelledFiles t command).foldlM add t

/-- Makes one entry of a tree, unless it was there before. -/
def makeEntry (before : FileTree) (e : FilePath × FileEntry) : IO Unit := do
  if before.entries.get? e.1 ≠ some e.2 then
    match e.2 with
    | .directory => IO.FS.createDir (FileTree.pathText e.1)
    | .file content => IO.FS.writeBinFile (FileTree.pathText e.1) content.toByteArray

/-- A source of idents that nobody can foresee. -/
def randomIdents : IO RandomIdents := do
  let bytes ← IO.getRandomBytes 8
  return ⟨bytes.toList.foldl (fun w b => w * 256 + b.toUInt64) 0⟩

end Crossmap.Program

open Crossmap in
/-- Runs the program with the words of its command line. -/
def main (words : List String) : IO UInt32 := do
  let before ← Program.snapshot words
  let ending := CommandLine.run before (← Program.randomIdents) words
  try
    ending.files.entries.entries.forM (Program.makeEntry before)
    IO.print ending.output
    IO.eprint ending.errors
    return ending.code.toUInt32
  catch e =>
    IO.eprintln ("convconf error: " ++ toString e)
    return 1
