import Crossmap.Proofs.Delimited.Directory
import Crossmap.Proofs.Mapping.WellFormed

/-! # Reading a batch back from a directory of tables

A directory of tables keeps the texts of a batch, whatever characters they are made of
(`batch_is_read_back`): under the columns of its first row, every row is read back with its texts,
and with nothing where it has none. A batch is refused only because of the files that are there.
-/

namespace Crossmap

open Mapping Delimited FileTree

/-! ## Rows as texts -/

/-- Whether a row holds, under certain columns, the texts of another row. A column of which that row
has no text or an empty one is null. -/
structure Row.HoldsTexts (kept row : Row) (columns : List String) : Prop where
  keys : kept.keys = columns
  text : ∀ c ∈ columns, ∀ cell s, row.get? c = some cell → cellText cell = some s → s ≠ "" →
    kept.get? c = some (.string s)
  null : ∀ c ∈ columns, (∀ cell ∈ row.get? c, cellText cell = none ∨ cellText cell = some "") →
    kept.get? c = some .null

theorem Row.HoldsTexts.of_rowRead {columns : List String} (filled : columns ≠ [])
    (distinct : columns.Nodup) (row : Row) : (rowRead columns row).HoldsTexts row columns := by
  have entries := entries_rowRead filled distinct row
  have found : ∀ c ∈ columns, (rowRead columns row).get? c = some (fieldCell (fieldIn row c)) := by
    intro c member
    rw [Dict.get?_eq_some_iff, entries]
    exact List.mem_map_of_mem member
  refine ⟨?_, ?_, ?_⟩
  · rw [Dict.keys, entries, List.map_map]
    exact List.map_id columns
  · intro c member cell s has shown visible
    have text : fieldIn row c = s := by rw [fieldIn, has, Option.bind_some, shown, Option.getD_some]
    rw [found c member, text, fieldCell, if_neg (mt String.isEmpty_iff.mp visible)]
  · intro c member silent
    have text : fieldIn row c = "" := by
      rw [fieldIn]
      cases has : row.get? c with
      | none => rfl
      | some cell =>
          rw [Option.bind_some]
          rcases silent cell has with none | empty
          · rw [none, Option.getD_none]
          · rw [empty, Option.getD_some]
    rw [found c member, text]
    rfl

/-! ## Batches -/

theorem not_beginsWithMark_of_isName {s : String} (lexical : IsName s) : ¬ BeginsWithMark s := by
  rw [IsName] at lexical
  rw [BeginsWithMark]
  cases chars : s.toList with
  | nil => exact nofun
  | cons c cs =>
      rw [chars, isName, Bool.and_eq_true] at lexical
      rw [List.head?_cons, Option.some_inj]
      rintro rfl
      exact absurd lexical.1 (by decide)

namespace TableDirectory

/-- The errors for which files are to blame: the directory cannot be made, or no content can be
written to the file of an object. -/
inductive Refuses (d : TableDirectory) (object : String) (files : FileTree) : StorageError → Prop
  | directory {e : FileError} {made : FileTree}
      (unmade : files.makeDirectories d.base = (.error e, made)) :
      Refuses d object files (.ioError e.message)
  | file {path : String} {e : FileError} {made : FileTree}
      (named : d.filePath object = .ok path)
      (ready : files.makeDirectories d.base = (.ok (), made))
      (unwritten : ∀ content, made.write path content = .error e) :
      Refuses d object files (.csvError object e.message)

variable {d : TableDirectory} {object path : String} {rows : List Row} {files files' : FileTree}

theorem refuses_of_write (named : d.filePath object = .ok path) {e : StorageError}
    (refused : d.write object rows files = (.error e, files')) : d.Refuses object files e := by
  cases rows with
  | nil => cases refused
  | cons first rest =>
      rw [write, named] at refused
      rcases replace_cases refused with ⟨e, unmade, failed⟩ | ⟨made, ready, unwritten | ended⟩
      · cases failed
        exact .directory unmade
      · obtain ⟨e, unwritten, -, failed⟩ := unwritten
        cases failed
        exact .file named ready (write_eq_error unwritten)
      · cases ended.2

/-- **A batch is read back as its texts.** A batch of rows, of which the first one has columns with
names, is written to an object unless the files prevent it. From then on the object has, row by row
and under the columns of the first row, the texts of the batch; a filter selects among these
rows. -/
theorem batch_is_read_back {first : Row} {rest : List Row} (named : d.filePath object = .ok path)
    (separates : IsDelimiter d.delimiter) (columns : first.keys ≠ [])
    (names : ∀ c ∈ first.keys, IsName c) (files : FileTree) :
    match d.write object (first :: rest) files with
    | (.error e, _) => d.Refuses object files e
    | (.ok (), files') =>
      ∃ kept : List Row,
        List.Forall₂ (fun row kept => kept.HoldsTexts row first.keys) (first :: rest) kept ∧
          ∀ filter, d.read object filter files' =
            .ok (kept.filter fun row => row.satisfies filter) := by
  have unmarked : ∀ c ∈ first.keys.head?, ¬ BeginsWithMark c := fun c member =>
    not_beginsWithMark_of_isName (names c (List.mem_of_mem_head? member))
  rcases ended : d.write object (first :: rest) files with ⟨e | _, files'⟩
  · exact refuses_of_write named ended
  · refine ⟨(first :: rest).map (rowRead first.keys), ?_, ?_⟩
    · rw [List.forall₂_map_right_iff, List.forall₂_same]
      intro row _
      exact .of_rowRead columns first.nodup_keys row
    · exact read_of_write separates unmarked ended

/-- A directory whose tables have semicolons between their fields. -/
def noteDirectory : TableDirectory := ⟨"notes/out", 0x3B⟩

/-- A note that has to be quoted, one that is empty, one that is null, one of two blanks, and a row
without a note. -/
def notes : List Row :=
  [.ofList [("NOTE", .string "; \"deed\"\r\n")],
    .ofList [("NOTE", .string "")],
    .ofList [("NOTE", .null)],
    .ofList [("NOTE", .string "  ")],
    .ofList [("ID", .whole 4)]]

theorem batch_is_read_back_notes :
    ∃ files' kept,
      noteDirectory.write "NOTES" notes .empty = (.ok (), files') ∧
      List.Forall₂ (fun row kept => Row.HoldsTexts kept row ["NOTE"]) notes kept ∧
      noteDirectory.read "NOTES" (.ofList [("note", "  ")]) files' =
        .ok (kept.filter fun row => row.satisfies (.ofList [("note", "  ")])) := by
  have named : noteDirectory.filePath "NOTES" = .ok "notes/out/NOTES.csv" := by decide +kernel
  have accepted : (noteDirectory.write "NOTES" notes .empty).1 = .ok () := by decide +kernel
  have names : ∀ c ∈ (Dict.ofList [("NOTE", Json.string "; \"deed\"\r\n")]).keys, IsName c := by
    decide
  have back := @batch_is_read_back noteDirectory "NOTES" _ _ notes.tail named
    ⟨by decide, by decide⟩ (by decide) names .empty
  split at back
  · next refused => exact nomatch accepted.symm.trans (congrArg Prod.fst refused)
  · next ended =>
    obtain ⟨kept, texts, selected⟩ := back
    exact ⟨_, kept, ended, texts, selected _⟩

end TableDirectory

end Crossmap
