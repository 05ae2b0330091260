import Crossmap.Dict
import Crossmap.Text.Split
import Crossmap.Text.Utf8

/-!
# Trees of files

A `FileTree` maps paths to files and directories. A path is the list of names that lead from the
working directory to its end; a path that begins with `/` leads from the root of all files, and one
that begins with `..` out of the working directory. Of what lies outside only what is listed
exists.

Texts of paths are followed name by name, as files are opened: every name on the way has to be a
directory, also one that `..` leads back out of.
-/

namespace Crossmap

/-- The names that lead to a file or directory. -/
abbrev FilePath := List String

/-- Why a file or directory cannot be opened or made. -/
inductive FileError where
  | notFound
  | alreadyExists
  | notDirectory
  | isDirectory
  | nameTooLong
  /-- A name holds the character with the number zero. -/
  | nulInName
  | notUtf8
  deriving DecidableEq, Inhabited

/-- The message of an error. -/
def FileError.message : FileError → String
  | .notFound => "No such file or directory (os error 2)"
  | .alreadyExists => "File exists (os error 17)"
  | .notDirectory => "Not a directory (os error 20)"
  | .isDirectory => "Is a directory (os error 21)"
  | .nameTooLong => "File name too long (os error 36)"
  | .nulInName => "file name contained an unexpected NUL byte"
  | .notUtf8 => "stream did not contain valid UTF-8"

/-- What stands under a path. -/
inductive FileEntry where
  | file (content : List UInt8)
  | directory
  deriving DecidableEq, Inhabited

/-- Files and directories by path. -/
structure FileTree where
  entries : Dict FilePath FileEntry
  deriving DecidableEq

namespace FileTree

/-- The tree in which the working directory is empty. -/
def empty : FileTree := ⟨.empty⟩

instance : Inhabited FileTree := ⟨empty⟩

/-- Whether a path leads to the working directory, the root, or a directory above. -/
def isGround (path : FilePath) : Bool := path = ["/"] || path.all (· = "..")

/-- What stands under a path. -/
def entry? (t : FileTree) (path : FilePath) : Option FileEntry :=
  if isGround path then some .directory else t.entries.get? path

/-- The directory above a directory. -/
def above (path : FilePath) : FilePath :=
  if path = ["/"] then path
  else if path.all (· = "..") then path ++ [".."]
  else path.dropLast

/-- The path to which a name leads from a directory. -/
def follow (dir : FilePath) (name : String) : FilePath :=
  if name = "." then dir else if name = ".." then above dir else dir ++ [name]

/-- Whether a name is longer than names can be. -/
def isLongName (name : String) : Bool := 255 < name.utf8ByteSize

/-- The directory to which a name leads from a directory. -/
def enter (t : FileTree) (dir : FilePath) (name : String) : Except FileError FilePath :=
  if isLongName name then .error .nameTooLong
  else match t.entry? (follow dir name) with
    | some .directory => .ok (follow dir name)
    | some (.file _) => .error .notDirectory
    | none => .error .notFound

/-- The names in the text of a path. -/
def pathNames (text : String) : List String :=
  ((Text.splitAt '/' text.toList).filter fun cs => !cs.isEmpty).map String.ofList

/-- Where the text of a path begins. -/
def pathStart (text : String) : FilePath := if text.startsWith "/" then ["/"] else []

/-- Whether the text of a path asks for a directory. -/
def asksForDirectory (text : String) : Bool := text.toList.getLast? = some '/'

/-- Where the text of a path leads. -/
inductive Place where
  | directory (path : FilePath)
  /-- To a name in a directory that exists. -/
  | member (path : FilePath)
  deriving DecidableEq, Inhabited

/-- Where names lead from a directory. -/
def walk (t : FileTree) (dir : FilePath) : List String → Except FileError Place
  | [] => .ok (.directory dir)
  | [name] =>
    if name = "." || name = ".." then (t.enter dir name).map .directory
    else if isLongName name then .error .nameTooLong
    else .ok (.member (dir ++ [name]))
  | name :: rest => do
    let next ← t.enter dir name
    t.walk next rest

/-- The error of a text that is no path, whatever files there are. -/
def pathFault? (text : String) : Option FileError :=
  if Text.hasChar '\x00' text then some .nulInName
  else if 4096 ≤ text.utf8ByteSize then some .nameTooLong
  else none

/-- Where the text of a path leads. -/
def locate (t : FileTree) (text : String) : Except FileError Place :=
  match pathFault? text with
  | some e => .error e
  | none =>
    if text.isEmpty then .error .notFound
    else t.walk (pathStart text) (pathNames text)

/-- The bytes of a file. -/
def read (t : FileTree) (text : String) : Except FileError (List UInt8) := do
  match ← t.locate text with
  | .directory _ => throw .isDirectory
  | .member path =>
    match t.entry? path with
    | none => throw .notFound
    | some .directory => throw .isDirectory
    | some (.file content) => if asksForDirectory text then throw .notDirectory else return content

/-- The text of a file. -/
def readText (t : FileTree) (text : String) : Except FileError String := do
  let content ← t.read text
  match Text.Utf8.decode content with
  | .ok s => return s
  | .error _ => throw .notUtf8

/-- Whether the text of a path leads to a file or directory. -/
def isThere (t : FileTree) (text : String) : Bool :=
  match t.locate text with
  | .ok (.directory _) => true
  | .ok (.member path) =>
    match t.entry? path with
    | some .directory => true
    | some (.file _) => !asksForDirectory text
    | none => false
  | .error _ => false

/-- The tree with a file written, in place of the one that was there. -/
def write (t : FileTree) (text : String) (content : List UInt8) : Except FileError FileTree := do
  match ← t.locate text with
  | .directory _ => throw .isDirectory
  | .member path =>
    match t.entry? path with
    | some .directory => throw .isDirectory
    | some (.file _) =>
      if asksForDirectory text then throw .notDirectory
      else return ⟨t.entries.insert path (.file content)⟩
    | none =>
      if asksForDirectory text then throw .isDirectory
      else return ⟨t.entries.insert path (.file content)⟩

/-- Makes the directories that names lead through. A last name `.` makes none. -/
def makeAlong (t : FileTree) (dir : FilePath) : List String → Except FileError Unit × FileTree
  | [] => (.ok (), t)
  | name :: rest =>
    let path := follow dir name
    match t.entry? path with
    | some .directory => t.makeAlong path rest
    | some (.file _) => (.error (if rest.isEmpty then .alreadyExists else .notDirectory), t)
    | none =>
      if isLongName name then (.error .nameTooLong, t)
      else if !rest.isEmpty && rest.all (· = ".") then (.error .notFound, t)
      else FileTree.makeAlong ⟨t.entries.insert path .directory⟩ path rest

/-- Makes a directory and those that lead to it, as far as they are missing. -/
def makeDirectories (t : FileTree) (text : String) : Except FileError Unit × FileTree :=
  match pathFault? text with
  | some e => (.error e, t)
  | none => t.makeAlong (pathStart text) (pathNames text)

/-- The text of a path. -/
def pathText : FilePath → String
  | "/" :: names => "/" ++ Text.joinWith "/" names
  | names => Text.joinWith "/" names

/-- The files of a tree by the text of their paths, in the order of those. -/
def files (t : FileTree) : List (String × List UInt8) :=
  let listed := t.entries.entries.filterMap fun e =>
    match e.2 with
    | .file content => some (pathText e.1, content)
    | .directory => none
  listed.mergeSort fun a b => a.1 ≤ b.1

end FileTree

/-! ## Texts of paths -/

namespace PathText

/-- A path extended by a name. -/
def join (base name : String) : String :=
  if base.isEmpty then name
  else if FileTree.asksForDirectory base then base ++ name
  else base ++ "/" ++ name

/-- The name in which a path ends, unless it ends in `..` or holds no name. -/
def fileName? (text : String) : Option String :=
  match ((FileTree.pathNames text).filter (· ≠ ".")).getLast? with
  | some name => if name = ".." then none else some name
  | none => none

/-- A name cut at its last dot: what stands before it and what follows it. A dot at the front cuts
nothing off. -/
def cutName (name : String) : String × Option String :=
  let pieces := Text.segments name
  let front := Text.joinWith "." pieces.dropLast
  if front.isEmpty then (name, none) else (front, pieces.getLast?)

/-- The name in which a path ends, without its extension. -/
def stem? (text : String) : Option String := (fileName? text).map fun n => (cutName n).1

/-- The extension of the name in which a path ends. -/
def extension? (text : String) : Option String := (fileName? text).bind fun n => (cutName n).2

end PathText

end Crossmap
