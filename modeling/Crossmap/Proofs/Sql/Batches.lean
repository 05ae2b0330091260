import Crossmap.Proofs.Conversion.Delivery
import Crossmap.Proofs.Sql.Names
import Crossmap.Sql.Store

/-! # Batches in statements

A store sends a batch with one statement, which takes its columns from the first row. All rows that
a declaration hands over have the same columns, so nothing is lost by this: the statement names the
columns of the declaration, and every row is sent with all its cells, each in the place of its
column (`batches_are_sent_whole`).
-/

namespace Crossmap.Sql

open Mapping

/-! ## Statements that insert rows -/

/-- What a statement that inserts rows asks for. -/
structure Insertion where
  /-- The segments of the name of the object. -/
  object : List String
  /-- The segments of the names of the columns. -/
  columns : List (List String)
  /-- The placeholders of the cells. -/
  marks : List String

/-- What a text means as a statement that inserts rows. -/
inductive InsertText (d : Dialect) : Insertion → String → Prop
  | mk {insertion : Insertion} {name : List Char} {names : List (List Char)} {text : String}
      (named : NameText d.quoteChar insertion.object name)
      (columns : List.Forall₂ (NameText d.quoteChar) insertion.columns names)
      (whole : text.toList = "INSERT INTO ".toList ++ name ++ " (".toList ++
        List.intercalate ", ".toList names ++ ") VALUES (".toList ++
        List.intercalate ", ".toList (insertion.marks.map String.toList) ++ ")".toList) :
      InsertText d insertion text

/-- The insertion of rows with certain columns into an object. -/
def insertionInto (d : Dialect) (object : String) (columns : List String) : Insertion where
  object := Text.segments object
  columns := columns.map Text.segments
  marks := (List.range columns.length).map fun i => d.placeholder (i + 1)

theorem toList_joinWith (sep : String) (texts : List String) :
    (Text.joinWith sep texts).toList = List.intercalate sep.toList (texts.map String.toList) := by
  induction texts with
  | nil => rfl
  | cons text rest ih =>
      cases rest with
      | nil => simp [Text.joinWith, List.intercalate]
      | cons next rest =>
          rw [Text.joinWith_cons (List.cons_ne_nil next rest), String.toList_append,
            String.toList_append, ih]
          simp [List.intercalate]

/-- A statement that is written means its insertion. -/
theorem insertText_of_written (d : Dialect) (object : String) (columns : List String) :
    InsertText d (insertionInto d object columns) (d.insertText object columns) := by
  have names : List.Forall₂ (NameText d.quoteChar) (columns.map Text.segments)
      ((columns.map d.quoteName).map String.toList) := by
    rw [List.map_map, List.forall₂_map_left_iff, List.forall₂_map_right_iff, List.forall₂_same]
    intro column _
    exact nameText_quoteName d column
  refine .mk (nameText_quoteName d object) names ?_
  unfold Dialect.insertText insertionInto
  -- the words of the statement are generalized, for they are slow to compare as texts
  generalize "INSERT INTO " = command
  generalize " (" = opening
  generalize ") VALUES (" = values
  generalize ")" = closing
  simp only [String.toList_append, toList_joinWith]

/-! ## Sets of parameters -/

/-- Whether a set of parameters carries a row under certain columns: one cell for each column, and
all the cells of the row. -/
structure CarriesRow (columns : List String) (row : Row) (cells : List Cell) : Prop where
  length : cells.length = columns.length
  entries : row.entries = columns.zip cells

/-- Under its own columns a row is carried by its parameters. -/
theorem carriesRow_parameters (row : Row) : CarriesRow row.keys row (parameters row.keys row) := by
  have cells : parameters row.keys row = row.values := by
    rw [parameters, Dict.keys, Dict.values, List.map_map]
    apply List.map_congr_left
    intro e member
    have found : row.get? e.1 = some e.2 := Dict.get?_eq_some_iff.mpr member
    rw [Function.comp_apply, found, Option.getD_some]
  constructor
  · rw [parameters, List.length_map]
  · rw [cells, Dict.keys, Dict.values, List.zip_map', List.map_id']

/-! ## Sending batches -/

/-- Whether a store sends a batch whole: not at all if it has no rows, and else with one statement,
which names the columns, and with the cells of every row in the order of the rows. -/
def SendsWhole {κ : Type} [Connection κ] (columns : List String) (b : Batch) (s : Store κ) : Prop :=
  ∃ text sets,
    InsertText s.dialect (insertionInto s.dialect b.object columns) text ∧
      List.Forall₂ (CarriesRow columns) b.rows sets ∧
      RecordTarget.write b.object b.rows s =
        match b.rows with
        | [] => (.ok (), s)
        | _ :: _ =>
          let answer := Connection.executeBatch text sets s.connection
          (answer.1, { s with connection := answer.2 })

theorem sendsWhole_of_keys {κ : Type} [Connection κ] {columns : List String} {b : Batch}
    (same : ∀ row ∈ b.rows, row.keys = columns) (s : Store κ) : SendsWhole columns b s := by
  refine ⟨s.dialect.insertText b.object columns, b.rows.map (parameters columns),
    insertText_of_written s.dialect b.object columns, ?_, ?_⟩
  · rw [List.forall₂_map_right_iff, List.forall₂_same]
    intro row member
    have carried := carriesRow_parameters row
    rwa [same row member] at carried
  · cases rows : b.rows with
    | nil => rfl
    | cons first rest =>
        rw [rows] at same
        rw [← same first List.mem_cons_self]
        rfl

/-- **No cell of a batch is lost.** Whatever a target does with them, the rows that it is handed for
a declaration all have the same columns: those that the declaration names, each where it is named
first. A store therefore sends each of these batches whole. -/
theorem batches_are_sent_whole {ω γ : Type} [RecordTarget ω] (m : Model) (records : List Record)
    (before : Session ω γ) :
    ∃ (batches : List Batch) (fault : Option StorageError),
      Handed before.stores batches fault ((writeRecords m records).exec before).2.stores ∧
        List.Forall₂
          (fun d b => b.object = d.object ∧
            (∀ row ∈ b.rows, row.keys = d.columnNames.eraseDups) ∧
            ∀ {κ : Type} [Connection κ] (s : Store κ), SendsWhole d.columnNames.eraseDups b s)
          (m.data.take batches.length) batches := by
  obtain ⟨batches, fault, w, sink, result, run, handed, complete, -⟩ :=
    exec_writeRecords m records before
  rw [run]
  refine ⟨batches, fault, handed, complete.imp fun d b own => ?_⟩
  have keys (row : Row) (member : row ∈ b.rows) : row.keys = d.columnNames.eraseDups :=
    own.keys member
  exact ⟨own.object, keys, sendsWhole_of_keys keys⟩

end Crossmap.Sql
