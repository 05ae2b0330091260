import Crossmap.Proofs.Delimited.Directory
import Crossmap.Proofs.Files.Destinations

/-! # What accesses to a directory of tables change

Every object has a file of its own, which stands in the directory itself (`tablePath`). An access
opens no other file, and none at all where the name of the object is wayward (`isPlain_iff`,
`eq_of_locate_filePath`). So a write changes at most the file of its object and makes the directory
(`alters_perform`), and this is all that comes of a history of accesses
(`accesses_stay_inside`).
-/

namespace Crossmap

open Delimited FileTree

/-! ## Names of objects -/

/-- Whether a name of an object can lead out of a directory, or is none. -/
def IsWaywardName (object : String) : Prop :=
  object = "" ∨ ['.', '.'] <:+: object.toList ∨ '/' ∈ object.toList ∨ '\\' ∈ object.toList

/-- A piece occurs in a text exactly if the text has it in one stretch. -/
theorem Text.occursIn_iff {piece cs : List Char} : occursIn piece cs = true ↔ piece <:+: cs := by
  induction cs with
  | nil => rw [occursIn, List.isEmpty_iff, List.infix_nil]
  | cons c cs ih =>
      rw [occursIn, Bool.or_eq_true, ih, List.isPrefixOf_iff_prefix, List.infix_cons_iff]

namespace TableDirectory

variable {d : TableDirectory} {object object' path : String} {rows : List Row}
  {files files' : FileTree}

/-- Names are wayward if they are empty or refused for what they contain. -/
theorem isWaywardName_iff : IsWaywardName object ↔ object = "" ∨ isWayward object = true := by
  rw [IsWaywardName, isWayward, Bool.or_eq_true, Bool.or_eq_true, Text.occursIn_iff, Text.hasChar,
    Text.hasChar, List.contains_iff_mem, List.contains_iff_mem, or_assoc]

/-- A wayward name is refused, whatever directory it is for. -/
theorem exists_filePath_eq_error (wayward : IsWaywardName object) :
    ∃ e, ∀ d : TableDirectory, d.filePath object = .error e := by
  by_cases empty : object.isEmpty = true
  · exact ⟨_, fun d => if_pos empty⟩
  · have strays := (isWaywardName_iff.mp wayward).resolve_left (mt String.isEmpty_iff.mpr empty)
    exact ⟨_, fun d => (if_neg empty).trans (if_pos strays)⟩

/-- An object that has a file has no wayward name. -/
theorem not_isWaywardName_of_filePath (named : d.filePath object = .ok path) :
    ¬ IsWaywardName object := by
  intro wayward
  obtain ⟨e, refused⟩ := exists_filePath_eq_error wayward
  exact nomatch (refused d).symm.trans named

/-! ## Files of objects -/

/-- Where the directory is. -/
def location (d : TableDirectory) : FilePath := textDestination d.base

/-- Where the file of an object is: in the directory itself, under its own name. -/
def tablePath (d : TableDirectory) (object : String) : FilePath := d.location ++ [object ++ ".csv"]

/-- Different objects have different files. -/
theorem tablePath_injective (d : TableDirectory) : Function.Injective d.tablePath := by
  intro object object' same
  have names := List.singleton_inj.mp (List.append_cancel_left same)
  have chars := congrArg String.toList names
  rw [String.toList_append, String.toList_append] at chars
  exact String.toList_inj.mp (List.append_cancel_right chars)

/-- The text by which the file of an object is opened leads nowhere else. -/
theorem eq_of_locate_filePath (named : d.filePath object = .ok path) {place : Place}
    (located : files.locate path = .ok place) : place = .member (d.tablePath object) := by
  obtain ⟨-, -, rfl⟩ := filePath_eq_ok_iff.mp named
  exact (isFileName_of_filePath named).eq_of_locate_join located

/-! ## Changes -/

/-- Whether a tree is another one but for the files of some objects, none of which has a wayward
name, and for directories that were made where nothing was, on the way to the directory. -/
def Alters (d : TableDirectory) (objects : List String) (files files' : FileTree) : Prop :=
  ∀ path, files'.entry? path = files.entry? path ∨
    (∃ object ∈ objects, ¬ IsWaywardName object ∧ path = d.tablePath object ∧
      files.entry? path ≠ some .directory ∧ ∃ content, files'.entry? path = some (.file content)) ∨
    path ∈ textWay d.base ∧ files.entry? path = none ∧ files'.entry? path = some .directory

namespace Alters

variable {objects objects' : List String} {files'' : FileTree}

/-- Making directories on the way to the directory changes nothing else. -/
theorem of_makes (makes : Makes (textWay d.base) files files') : d.Alters objects files files' :=
  fun path => (makes path).imp_right .inr

/-- Changes one after another concern the objects of both. -/
theorem trans (first : d.Alters objects files files') (second : d.Alters objects' files' files'') :
    d.Alters (objects ++ objects') files files'' := by
  intro path
  rcases second path with same | written | ⟨onWay, missing, made⟩
  · rw [same]
    rcases first path with unchanged | ⟨object, member, written⟩ | made
    · exact .inl unchanged
    · exact .inr (.inl ⟨object, List.mem_append_left _ member, written⟩)
    · exact .inr (.inr made)
  · obtain ⟨object, member, plain, stands, free, there⟩ := written
    refine .inr (.inl ⟨object, List.mem_append_right _ member, plain, stands, ?_, there⟩)
    rcases first path with same | ⟨-, -, -, -, free', -⟩ | ⟨-, missing, -⟩
    · rwa [← same]
    · exact free'
    · rw [missing]
      exact nofun
  · rcases first path with same | ⟨-, -, -, -, -, content, there⟩ | ⟨-, -, there⟩
    · exact .inr (.inr ⟨onWay, same.symm.trans missing, made⟩)
    · exact nomatch missing.symm.trans there
    · exact nomatch missing.symm.trans there

end Alters

/-- Writing the file of an object changes the file of that object only. -/
theorem alters_of_write {content : List UInt8} (named : d.filePath object = .ok path)
    (written : files.write path content = .ok files') : d.Alters [object] files files' := by
  obtain ⟨place, located, free, -, rfl⟩ := write_eq_ok_iff.mp written
  obtain rfl := Place.member.inj (eq_of_locate_filePath named located)
  intro path'
  rw [entry?_insert_file free]
  by_cases same : path' = d.tablePath object
  · rw [if_pos same, same]
    exact .inr (.inl ⟨object, List.mem_cons_self, not_isWaywardName_of_filePath named, rfl, free,
      content, rfl⟩)
  · rw [if_neg same]
    exact .inl rfl

/-- Replacing the file of an object alters this file and makes the directory, also where it
fails. -/
theorem alters_replace (named : d.filePath object = .ok path) (columns : List String)
    (rows : List Row) (files : FileTree) :
    d.Alters [object] files (d.replace object path columns rows files).2 := by
  rcases replaced : d.replace object path columns rows files with ⟨result, files'⟩
  have makes := makeDirectories_makes files d.base
  rcases replace_cases replaced with ⟨e, unmade, -⟩ | ⟨made, ready, failed | ended⟩
  · rw [unmade] at makes
    exact .of_makes makes
  · obtain ⟨e, -, rfl, -⟩ := failed
    rw [ready] at makes
    exact .of_makes makes
  · rw [ready] at makes
    have way : d.Alters [] files made := .of_makes makes
    exact way.trans (alters_of_write named ended.1)

/-- A batch with rows that was written stands in the file of its object, and its directory is
there. -/
theorem stands_of_write (filled : rows ≠ [])
    (written : d.write object rows files = (.ok (), files')) :
    files'.entry? d.location = some .directory ∧
      ∃ content, files'.entry? (d.tablePath object) = some (.file content) := by
  rcases write_cases written with ⟨none, -⟩ | ⟨first, rest, path, made, -, named, ready, ended⟩
  · exact (filled none).elim
  · have there := (FileTree.sameDirectories_of_write ended).hasDirectory
      (hasDirectory_of_makeDirectories ready)
    refine ⟨there.entry?_textDestination, ?_⟩
    obtain ⟨place, located, free, -, rfl⟩ := write_eq_ok_iff.mp ended
    obtain rfl := Place.member.inj (eq_of_locate_filePath named located)
    exact ⟨_, (entry?_insert_file free _ _).trans (if_pos rfl)⟩

end TableDirectory

/-! ## Histories of accesses -/

/-- An access to a directory of tables. -/
inductive TableAccess where
  | read (object : String) (filter : Filter)
  | write (object : String) (rows : List Row)

namespace TableAccess

/-- The objects that an access writes to: one, or none if it reads or has no rows to write. -/
def objects : TableAccess → List String
  | read _ _ => []
  | write _ [] => []
  | write object (_ :: _) => [object]

end TableAccess

namespace TableDirectory

variable {d : TableDirectory}

/-- Carries out an access: the rows that are read, and the files after it. -/
def perform (d : TableDirectory) (files : FileTree) :
    TableAccess → Except StorageError (List Row) × FileTree
  | .read object filter => (d.read object filter files, files)
  | .write object rows =>
    let r := d.write object rows files
    (r.1.map fun _ => [], r.2)

/-- The files after accesses, one after another. -/
def performAll (d : TableDirectory) (files : FileTree) (accesses : List TableAccess) : FileTree :=
  accesses.foldl (fun files a => (d.perform files a).2) files

/-- Where nothing is written, nothing changes. -/
theorem perform_of_objects_eq_nil {a : TableAccess} (none : a.objects = []) (files : FileTree) :
    (d.perform files a).2 = files := by
  cases a with
  | read object filter => rfl
  | write object rows =>
      cases rows with
      | nil => rfl
      | cons first rest => cases none

/-- An access to a wayward name fails and changes nothing, unless it has no rows to write. -/
theorem perform_of_isWaywardName {object : String} (wayward : IsWaywardName object) :
    ∃ e, ∀ (d : TableDirectory) (files : FileTree),
      (∀ filter, d.perform files (.read object filter) = (.error e, files)) ∧
        ∀ rows ≠ [], d.perform files (.write object rows) = (.error e, files) := by
  obtain ⟨e, refused⟩ := exists_filePath_eq_error wayward
  refine ⟨e, fun d files => ⟨fun filter => ?_, fun rows filled => ?_⟩⟩
  · rw [perform, read, refused d]
    rfl
  · cases rows with
    | nil => exact (filled rfl).elim
    | cons first rest =>
        rw [perform, write, refused d]
        rfl

/-- An access alters at most the file of the object that it writes to. -/
theorem alters_perform (d : TableDirectory) (files : FileTree) (a : TableAccess) :
    d.Alters a.objects files (d.perform files a).2 := by
  cases a with
  | read object filter => exact fun _ => .inl rfl
  | write object rows =>
      cases rows with
      | nil => exact fun _ => .inl rfl
      | cons first rest =>
          rw [perform, write]
          cases named : d.filePath object with
          | error e => exact fun _ => .inl rfl
          | ok path => exact alters_replace named first.keys (first :: rest) files

/-- Accesses alter at most the files of the objects that they write to. -/
theorem alters_performAll (d : TableDirectory) (files : FileTree) (accesses : List TableAccess) :
    d.Alters (accesses.flatMap TableAccess.objects) files (d.performAll files accesses) := by
  induction accesses generalizing files with
  | nil => exact fun _ => .inl rfl
  | cons a rest ih =>
      rw [List.flatMap_cons]
      exact (alters_perform d files a).trans (ih _)

/-- **Accesses stay inside.** Whatever accesses a directory of tables has had, all files are as they
were but those that stand in the directory under the names of objects that were written to; besides,
only directories on the way to it may have been made. The next access changes nothing if it reads,
and else at most the file of its own object, which is in place if it ends well. The file of an
object is opened under no name but its own, different objects have different files, and an object
with a wayward name has none: reading it fails, and so does writing rows to it, and nothing
changes. -/
theorem accesses_stay_inside (d : TableDirectory) (files : FileTree)
    (accesses : List TableAccess) :
    let now := d.performAll files accesses
    d.Alters (accesses.flatMap TableAccess.objects) files now ∧
      (∀ a, d.Alters a.objects now (d.perform now a).2 ∧
        (a.objects = [] → (d.perform now a).2 = now)) ∧
      (∀ object rows after, rows ≠ [] → d.perform now (.write object rows) = (.ok [], after) →
        after.entry? d.location = some .directory ∧
          ∃ content, after.entry? (d.tablePath object) = some (.file content)) ∧
      (∀ object path place, d.filePath object = .ok path → now.locate path = .ok place →
        place = .member (d.tablePath object)) ∧
      Function.Injective d.tablePath ∧
      ∀ object, IsWaywardName object → ∃ e,
        (∀ filter, d.perform now (.read object filter) = (.error e, now)) ∧
          ∀ rows ≠ [], d.perform now (.write object rows) = (.error e, now) := by
  intro now
  refine ⟨alters_performAll d files accesses, fun a => ?_, ?_, ?_, d.tablePath_injective, ?_⟩
  · exact ⟨alters_perform d now a, fun none => perform_of_objects_eq_nil none now⟩
  · intro object rows after filled performed
    obtain ⟨mapped, rfl⟩ := Prod.mk.inj performed
    have ended : (d.write object rows now).1 = .ok () := by
      cases result : (d.write object rows now).1 with
      | error e =>
          rw [result] at mapped
          cases mapped
      | ok _ => rfl
    exact stands_of_write filled (Prod.ext ended rfl)
  · exact fun object path place named located => eq_of_locate_filePath named located
  · intro object wayward
    obtain ⟨e, refused⟩ := perform_of_isWaywardName wayward
    exact ⟨e, refused d now⟩

end TableDirectory

end Crossmap
