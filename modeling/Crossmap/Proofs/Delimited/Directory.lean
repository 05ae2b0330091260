import Crossmap.Delimited.Directory
import Crossmap.Proofs.Delimited.Tables
import Crossmap.Proofs.Files.Tree

/-! # Writing to and reading from directories of tables

A batch that was written to an object is read back as the rows of its table
(`read_of_write`), and no other object is changed by it (`read_of_write_of_ne`).
-/

namespace Crossmap

open Delimited FileTree

/-! ## Rows in tables -/

/-- A cell as a table keeps it: its text, and nothing where that is empty. -/
def cellInTable (cell : Cell) : Cell := fieldCell ((cellText cell).getD "")

/-- A row as a table keeps it. A row without columns is kept as an empty field without a name. -/
def Row.inTable (row : Row) : Row :=
  if row.isEmpty then Dict.ofList [("", .null)] else row.mapValues fun _ cell => cellInTable cell

theorem rowRead_keys (row : Row) : rowRead row.keys row = row.inTable := by
  by_cases none : row.entries = []
  · obtain rfl : row = .empty := Dict.ext none
    rfl
  · have filled : row.isEmpty = false := List.isEmpty_eq_false_iff.mpr none
    have columns : row.keys ≠ [] := mt List.map_eq_nil_iff.mp none
    apply Dict.ext
    rw [Row.inTable, if_neg (by rw [filled]; exact nofun),
      entries_rowRead columns row.nodup_keys, Dict.keys, List.map_map]
    apply List.map_congr_left
    intro e member
    have found : row.get? e.1 = some e.2 := Dict.get?_eq_some_iff.mpr member
    rw [Function.comp_apply, fieldIn, found, Option.bind_some]
    rfl

namespace TableDirectory

variable {d : TableDirectory} {object object' path : String} {rows : List Row}
  {files files' : FileTree}

/-! ## Files of objects -/

theorem filePath_eq_ok_iff :
    d.filePath object = .ok path ↔
      object ≠ "" ∧ isWayward object = false ∧ path = PathText.join d.base (object ++ ".csv") := by
  rw [filePath]
  constructor
  · intro named
    split at named
    · cases named
    · next filled =>
      split at named
      · cases named
      · next confined =>
        refine ⟨?_, eq_false_of_ne_true confined, (Except.ok.inj named).symm⟩
        rintro rfl
        exact filled rfl
  · rintro ⟨filled, confined, rfl⟩
    rw [if_neg (mt String.isEmpty_iff.mp filled), if_neg (by rw [confined]; exact nofun)]

theorem isFileName_of_filePath (named : d.filePath object = .ok path) :
    IsFileName (object ++ ".csv") := by
  obtain ⟨-, confined, -⟩ := filePath_eq_ok_iff.mp named
  have chars : (object ++ ".csv").toList = object.toList ++ ['.', 'c', 's', 'v'] :=
    String.toList_append
  have noSlash : '/' ∉ object.toList := by
    rw [isWayward, Bool.or_eq_false_iff, Bool.or_eq_false_iff, Text.hasChar] at confined
    intro slash
    exact nomatch confined.1.2.symm.trans (List.contains_iff_mem.mpr slash)
  have long (name : String) (short : name.toList.length < 4) : object ++ ".csv" ≠ name := by
    rintro rfl
    rw [chars, List.length_append] at short
    exact absurd short (Nat.not_lt.mpr (Nat.le_add_left 4 _))
  refine ⟨long "" (by decide), ?_, long "." (by decide), long ".." (by decide)⟩
  rw [chars, List.mem_append, not_or]
  exact ⟨noSlash, by decide⟩

/-- Different objects have different files. -/
theorem leadApart_of_filePath {path' : String} (named : d.filePath object = .ok path)
    (named' : d.filePath object' = .ok path') (ne : object ≠ object') :
    files.LeadApart path path' := by
  have other : object ++ ".csv" ≠ object' ++ ".csv" := by
    intro same
    have chars := congrArg String.toList same
    rw [String.toList_append, String.toList_append] at chars
    exact ne (String.toList_inj.mp (List.append_cancel_right chars))
  obtain ⟨-, -, rfl⟩ := filePath_eq_ok_iff.mp named
  obtain ⟨-, -, rfl⟩ := filePath_eq_ok_iff.mp named'
  exact (isFileName_of_filePath named).leadApart_join (isFileName_of_filePath named') other _ _ _

/-! ## Reading what was written -/

/-- An object without a file has no rows. -/
theorem read_of_missing (named : d.filePath object = .ok path)
    (missing : files.isThere path = false) (filter : Filter) :
    d.read object filter files = .ok [] := by
  simp only [read, named, missing, bind, Except.bind, Bool.not_false, if_true]
  rfl

/-- A file is replaced in two steps, of which each can fail: its directory is made, and then the
table is written. -/
theorem replace_cases {columns : List String} {result : Except StorageError Unit}
    (replaced : d.replace object path columns rows files = (result, files')) :
    (∃ e, files.makeDirectories d.base = (.error e, files') ∧
        result = .error (.ioError e.message)) ∨
      ∃ made, files.makeDirectories d.base = (.ok (), made) ∧
        ((∃ e, made.write path (writeTable d.delimiter columns rows) = .error e ∧
            files' = made ∧ result = .error (.csvError object e.message)) ∨
          made.write path (writeTable d.delimiter columns rows) = .ok files' ∧
            result = .ok ()) := by
  rw [replace] at replaced
  split at replaced
  · next e made unmade =>
    obtain ⟨rfl, rfl⟩ := Prod.mk.inj replaced
    exact .inl ⟨e, unmade, rfl⟩
  · next made ready =>
    right
    refine ⟨made, ready, ?_⟩
    split at replaced
    · next ended =>
      obtain ⟨rfl, rfl⟩ := Prod.mk.inj replaced
      exact .inr ⟨ended, rfl⟩
    · next e unwritten =>
      obtain ⟨rfl, rfl⟩ := Prod.mk.inj replaced
      exact .inl ⟨e, unwritten, rfl, rfl⟩

/-- A batch with rows is written as the table of its rows once its directory has been made, and a
batch without rows is not written. -/
theorem write_cases (written : d.write object rows files = (.ok (), files')) :
    rows = [] ∧ files' = files ∨
      ∃ first rest path made, rows = first :: rest ∧ d.filePath object = .ok path ∧
        files.makeDirectories d.base = (.ok (), made) ∧
        made.write path (writeTable d.delimiter first.keys rows) = .ok files' := by
  cases rows with
  | nil => exact .inl ⟨rfl, (Prod.mk.inj written).2.symm⟩
  | cons first rest =>
      right
      rw [write] at written
      cases named : d.filePath object with
      | error e =>
          rw [named] at written
          cases written
      | ok path =>
          rw [named] at written
          rcases replace_cases written with ⟨e, -, failed⟩ | ⟨made, ready, ⟨e, -, -, failed⟩ | ended⟩
          · cases failed
          · cases failed
          · exact ⟨first, rest, path, made, rfl, rfl, ready, ended.1⟩

/-- In a directory that is there, only the file of an object is written. -/
theorem write_cases_of_hasDirectory (there : files.HasDirectory d.base)
    (written : d.write object rows files = (.ok (), files')) :
    files' = files ∨ ∃ path content,
      d.filePath object = .ok path ∧ files.write path content = .ok files' := by
  rcases write_cases written with ⟨-, same⟩ | ⟨first, rest, path, made, -, named, ready, ended⟩
  · exact .inl same
  · obtain ⟨-, rfl⟩ := Prod.mk.inj ((makeDirectories_of_hasDirectory there).symm.trans ready)
    exact .inr ⟨path, _, named, ended⟩

theorem sameDirectories_of_write (there : files.HasDirectory d.base)
    (written : d.write object rows files = (.ok (), files')) : SameDirectories files files' := by
  rcases write_cases_of_hasDirectory there written with rfl | ⟨path, content, -, ended⟩
  · exact fun _ => Iff.rfl
  · exact FileTree.sameDirectories_of_write ended

/-- **A batch is read back from its table.** -/
theorem read_of_write (separates : IsDelimiter d.delimiter) {first : Row} {rest : List Row}
    (unmarked : ∀ c ∈ first.keys.head?, ¬ BeginsWithMark c)
    (written : d.write object (first :: rest) files = (.ok (), files')) (filter : Filter) :
    d.read object filter files' =
      .ok (((first :: rest).map (rowRead first.keys)).filter fun row => row.satisfies filter) := by
  rcases write_cases written with ⟨none, -⟩ | ⟨first', rest', path, made, parts, named, -, ended⟩
  · cases none
  · obtain ⟨rfl, -⟩ := List.cons.inj parts
    obtain ⟨isThere, content⟩ := FileTree.read_of_write ended
    have table := readTable_writeTable separates unmarked (first :: rest)
    simp only [read, named, isThere, content, table, Except.mapError, bind, Except.bind, pure,
      Except.pure, Bool.not_true, Bool.false_eq_true, if_false]

/-- **No other object is changed.** -/
theorem read_of_write_of_ne (there : files.HasDirectory d.base) (ne : object ≠ object')
    (written : d.write object rows files = (.ok (), files')) (filter : Filter) :
    d.read object' filter files' = d.read object' filter files := by
  rcases write_cases_of_hasDirectory there written with rfl | ⟨path, content, named, ended⟩
  · rfl
  · cases named' : d.filePath object' with
    | error e => simp only [read, named', bind, Except.bind]
    | ok path' =>
        obtain ⟨isThere, same⟩ :=
          read_of_write_of_leadApart ended (leadApart_of_filePath named named' ne)
        by_cases there' : files.isThere path' = true
        · simp only [read, named', isThere, same there', bind, Except.bind]
        · rw [Bool.not_eq_true] at there'
          simp only [read, named', isThere, there', bind, Except.bind, Bool.not_false, if_true]

end TableDirectory

end Crossmap
