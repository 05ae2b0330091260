import Crossmap.Proofs.Conversion.Delivery
import Crossmap.Proofs.Delimited.Directory

/-! # What directories of tables keep of the batches that they are handed

Every batch with rows replaces the table of its object. When records have been written to an empty
directory, an object is therefore read back as the rows of its last batch that has any
(`tables_keep_last_batches`). These are all its rows if no other of its batches has rows; otherwise
rows are gone that have been counted (`tables_lose_counted_rows`).
-/

namespace Crossmap

open Mapping Delimited FileTree

variable {γ : Type}

/-! ## Batches with rows -/

/-- The batches of an object that have rows. -/
def filledBatches (object : String) (batches : List Batch) : List Batch :=
  batches.filter fun b => b.object = object && !b.rows.isEmpty

/-- The rows of the last batch of an object that has any. -/
def lastRowsUnder (object : String) (batches : List Batch) : List Row :=
  ((filledBatches object batches).getLast?.map Batch.rows).getD []

/-- A further batch is one of those with rows for the object, or none of them. -/
theorem filledBatches_cons (object : String) (b : Batch) (batches : List Batch) :
    filledBatches object (b :: batches) =
      (if b.object = object ∧ b.rows ≠ [] then [b] else []) ++ filledBatches object batches := by
  by_cases filled : b.object = object ∧ b.rows ≠ []
  · rw [if_pos filled, filledBatches, List.filter_cons_of_pos (by simpa using filled)]
    rfl
  · rw [if_neg filled, filledBatches, List.filter_cons_of_neg (by simpa using filled)]
    rfl

/-- The rows of an object are those of its batches that have any: empty batches add nothing. -/
theorem rowsUnder_eq_flatMap_filledBatches (object : String) (batches : List Batch) :
    rowsUnder object batches = (filledBatches object batches).flatMap Batch.rows := by
  induction batches with
  | nil => rfl
  | cons b rest ih =>
      rw [rowsUnder_cons, filledBatches_cons, List.flatMap_append, ih]
      by_cases same : b.object = object
      · by_cases none : b.rows = []
        · rw [if_pos same, if_neg (fun filled => filled.2 none), none]
          rfl
        · rw [if_pos same, if_pos ⟨same, none⟩, List.flatMap_singleton]
      · rw [if_neg same, if_neg (fun filled => same filled.1)]
        rfl

/-- The last batch with rows is all there is exactly if no other batch has rows. -/
theorem lastRowsUnder_eq_rowsUnder_iff (object : String) (batches : List Batch) :
    lastRowsUnder object batches = rowsUnder object batches ↔
      (filledBatches object batches).length ≤ 1 := by
  have filled : ∀ b ∈ filledBatches object batches, b.rows ≠ [] := by
    intro b member
    have both := (List.mem_filter.mp member).2
    simp only [Bool.and_eq_true, Bool.not_eq_true', List.isEmpty_eq_false_iff] at both
    exact both.2
  rw [lastRowsUnder, rowsUnder_eq_flatMap_filledBatches]
  rcases List.eq_nil_or_concat (filledBatches object batches) with none | ⟨others, b, all⟩
  · rw [none]
    exact iff_of_true rfl (Nat.zero_le 1)
  · rw [List.concat_eq_append] at all
    rw [all] at filled ⊢
    have noOthers : others.flatMap Batch.rows = [] ↔ others = [] := by
      rw [List.flatMap_eq_nil_iff]
      constructor
      · intro noRows
        by_contra more
        obtain ⟨b', member⟩ := List.exists_mem_of_ne_nil others more
        exact filled b' (List.mem_append_left _ member) (noRows b' member)
      · rintro rfl
        exact nofun
    rw [List.getLast?_concat, Option.map_some, Option.getD_some, List.flatMap_append,
      List.flatMap_singleton, List.self_eq_append_left, noOthers, List.length_append,
      List.length_singleton, ← List.length_eq_zero_iff]
    omega

/-! ## Handing batches to a directory -/

/-- Whether all rows of a batch have the same columns, of which the first one does not begin with
the mark of the byte order. -/
def IsEven (b : Batch) : Prop :=
  ∃ columns : List String, (∀ c ∈ columns.head?, ¬ BeginsWithMark c) ∧
    ∀ row ∈ b.rows, row.keys = columns

/-- Rows with the same columns are read back as they stand in the table, each cell as its text. -/
theorem map_rowRead_of_isEven {first : Row} {rest : List Row} {columns : List String}
    (same : ∀ row ∈ first :: rest, row.keys = columns) :
    (first :: rest).map (rowRead first.keys) = (first :: rest).map Row.inTable := by
  apply List.map_congr_left
  intro row member
  rw [same first List.mem_cons_self, ← same row member, rowRead_keys]

/-- A batch without rows changes nothing; any other one is what its object is read back as. -/
theorem TableDirectory.read_of_write_batch {d : TableDirectory} {files files' : FileTree}
    (there : files.HasDirectory d.base) (separates : IsDelimiter d.delimiter) {b : Batch}
    (even : IsEven b) (written : d.write b.object b.rows files = (.ok (), files'))
    (object : String) :
    d.read object .empty files' =
      if b.object = object ∧ b.rows ≠ [] then .ok (b.rows.map Row.inTable)
      else d.read object .empty files := by
  obtain ⟨columns, unmarked, same⟩ := even
  by_cases here : b.object = object
  · cases rows : b.rows with
    | nil =>
        rw [rows] at written
        obtain ⟨-, rfl⟩ := Prod.mk.inj written
        rw [if_neg fun filled => filled.2 rfl]
    | cons first rest =>
        rw [rows] at written same
        rw [← same first List.mem_cons_self] at unmarked
        have all (row : Row) : row.satisfies .empty = true := rfl
        rw [if_pos ⟨here, List.cons_ne_nil _ _⟩, ← here,
          read_of_write separates unmarked written, map_rowRead_of_isEven same,
          List.filter_eq_self.mpr fun row _ => all row]
  · rw [if_neg fun filled => here filled.1]
    exact read_of_write_of_ne there here written .empty

/-- After batches were handed to a directory that refused none, an object is read back as the rows
of its last batch with rows, and as it was before if there is none. -/
theorem Handed.read_tables {w w' : TableDirectories} {batches : List Batch}
    {fault : Option StorageError} (handed : Handed w batches fault w') (unfaulted : fault = none)
    (there : w.files.HasDirectory w.target.base) (separates : IsDelimiter w.target.delimiter)
    (even : ∀ b ∈ batches, IsEven b) (object : String) :
    w.target.read object .empty w'.files =
      match (filledBatches object batches).getLast? with
      | some b => .ok (b.rows.map Row.inTable)
      | none => w.target.read object .empty w.files := by
  induction handed with
  | nothing => rfl
  | refused => cases unfaulted
  | @accepted w w₁ w' b rest fault acceptance _ ih =>
      obtain ⟨accepted, rfl⟩ := Prod.mk.inj acceptance
      have written : w.target.write b.object b.rows w.files =
          (.ok (), (w.target.write b.object b.rows w.files).2) := Prod.ext accepted rfl
      have there' := (TableDirectory.sameDirectories_of_write there written).hasDirectory there
      have further := ih unfaulted there' separates fun b' member =>
        even b' (List.mem_cons_of_mem _ member)
      have now := TableDirectory.read_of_write_batch there separates (even b List.mem_cons_self)
        written object
      dsimp only at further
      rw [further, filledBatches_cons, List.getLast?_append]
      cases later : (filledBatches object rest).getLast? with
      | some b' => rfl
      | none =>
          rw [now]
          by_cases filled : b.object = object ∧ b.rows ≠ []
          · rw [if_pos filled, if_pos filled]
            rfl
          · rw [if_neg filled, if_neg filled]
            rfl

/-! ## Writing records to a directory -/

/-- The rows of a complete batch have the same columns, those of its declaration, in the same order.
-/
theorem isEven_of_completeBatch {m : Model} {records : List Record} {d : DataDeclaration}
    {b : Batch} (complete : CompleteBatch m records d b)
    (unmarked : ∀ c ∈ d.columnNames.head?, ¬ BeginsWithMark c) : IsEven b := by
  refine ⟨d.columnNames.eraseDups, ?_, ?_⟩
  · cases names : d.columnNames with
    | nil => exact nofun
    | cons c rest =>
        rw [names] at unmarked
        rw [List.eraseDups_cons]
        exact unmarked
  · intro row member
    exact complete.keys member

/-- **A directory of tables keeps the last batch of an object.** When records have been written to a
directory that had no file for any object, the rows that were handed over for each object have been
counted. The object is read back as the rows of its last batch with rows, which are all its rows
exactly if no other of its batches has rows. -/
theorem tables_keep_last_batches {m : Model} {records : List Record}
    {before after : Session TableDirectories γ} {counts : Dict String Nat}
    (there : before.stores.files.HasDirectory before.stores.target.base)
    (vacant : ∀ d ∈ m.data, ∃ path, before.stores.target.filePath d.object = .ok path ∧
      before.stores.files.isThere path = false)
    (separates : IsDelimiter before.stores.target.delimiter)
    (unmarked : ∀ d ∈ m.data, ∀ c ∈ d.columnNames.head?, ¬ BeginsWithMark c)
    (ended : (writeRecords m records).exec before = (.ok counts, after)) :
    ∃ batches, List.Forall₂ (CompleteBatch m records) m.data batches ∧
      CountsRows m.data batches counts ∧
      ∀ d ∈ m.data,
        before.stores.target.read d.object .empty after.stores.files =
            .ok ((lastRowsUnder d.object batches).map Row.inTable) ∧
          (lastRowsUnder d.object batches = rowsUnder d.object batches ↔
            (filledBatches d.object batches).length ≤ 1) := by
  obtain ⟨batches, fault, w, sink, result, run, handed, complete, ends⟩ :=
    exec_writeRecords m records before
  rw [run] at ended
  obtain ⟨rfl, rfl⟩ := Prod.mk.inj ended
  obtain ⟨unfaulted, all, counted⟩ := ends
  rw [all, List.take_length] at complete
  have even : ∀ b ∈ batches, IsEven b := by
    intro b member
    obtain ⟨d, declared, own⟩ := exists_mem_of_forall₂ complete member
    exact isEven_of_completeBatch own (unmarked d declared)
  refine ⟨batches, complete, counted, fun d declared => ⟨?_, lastRowsUnder_eq_rowsUnder_iff _ _⟩⟩
  obtain ⟨path, named, missing⟩ := vacant d declared
  have nothing : before.stores.target.read d.object .empty before.stores.files = .ok [] :=
    TableDirectory.read_of_missing named missing .empty
  rw [handed.read_tables unfaulted there separates even d.object, nothing, lastRowsUnder]
  cases (filledBatches d.object batches).getLast? with
  | none => rfl
  | some b => rfl

/-- An empty directory. -/
def outDirectory : TableDirectory := ⟨"out", 0x2C⟩

def outSession : Session TableDirectories NumberedIdents :=
  ⟨⟨outDirectory, outDirectory, ⟨.ofList [(["out"], .directory)]⟩⟩, .fresh "n", .discard⟩

/-- Deeds that two declarations write to one object, and a register without columns. -/
def deedTables : Model :=
  { Model.bare "Deeds" with
    data := [
      { DataDeclaration.bare "D" "DEEDS" "Deed" with identColumn := some "ID" },
      { DataDeclaration.bare "E" "DEEDS" "Deed" with identColumn := some "KEY" },
      DataDeclaration.bare "R" "REGISTER" "Deed"] }

theorem tables_keep_last_batches_deeds :
    ∃ counts after batches,
      (writeRecords deedTables [.bare "Deed" "1"]).exec outSession = (.ok counts, after) ∧
      List.Forall₂ (CompleteBatch deedTables [.bare "Deed" "1"]) deedTables.data batches ∧
      CountsRows deedTables.data batches counts ∧
      outDirectory.read "DEEDS" .empty after.stores.files =
        .ok ((lastRowsUnder "DEEDS" batches).map Row.inTable) := by
  have there : outSession.stores.files.HasDirectory "out" := ⟨rfl, by decide +kernel, trivial⟩
  have vacant : ∀ d ∈ deedTables.data, ∃ path, outDirectory.filePath d.object = .ok path ∧
      outSession.stores.files.isThere path = false := by
    intro d declared
    refine ⟨"out/" ++ d.object ++ ".csv", ?_⟩
    revert d
    decide +kernel
  have unmarked : ∀ d ∈ deedTables.data, ∀ c ∈ d.columnNames.head?, ¬ BeginsWithMark c := by
    decide +kernel
  obtain ⟨counts, after, ended⟩ :=
    Run.exists_exec_eq_ok (r := writeRecords deedTables [.bare "Deed" "1"]) (s := outSession)
      (by decide +kernel)
  obtain ⟨batches, complete, counted, kept⟩ :=
    tables_keep_last_batches there vacant ⟨by decide, by decide⟩ unmarked ended
  have first : deedTables.data[0] ∈ deedTables.data := List.getElem_mem _
  exact ⟨counts, after, batches, ended, complete, counted, (kept _ first).1⟩

/-- Two rows are counted for an object of two declarations, and one is read back; a row without
columns comes back with one. -/
theorem tables_lose_counted_rows :
    let run := (writeRecords deedTables [.bare "Deed" "1"]).exec outSession
    run.1.map (fun counts => counts.entries) = .ok [("DEEDS", 2), ("REGISTER", 1)] ∧
      (outDirectory.read "DEEDS" .empty run.2.stores.files).map (·.map Dict.keys) =
        .ok [["KEY"]] ∧
      (outDirectory.read "REGISTER" .empty run.2.stores.files).map (·.map Dict.keys) =
        .ok [[""]] := by
  decide +kernel

end Crossmap
