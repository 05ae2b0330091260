import Crossmap.Proofs.Conversion.RowResults
import Crossmap.Proofs.Dict.Lookup
import Crossmap.Table.Memory

/-! # Runs on rows in memory

Writing records through a model appends, declaration by declaration, one batch to the object of
each (`exec_foldlM_writeData`), so that an object holds what it held and then its batches
(`rows_foldl_append`) and has received one write more for each of them
(`writeCount_foldl_append`). Reading leaves the rows as they are (`exec_readData`).
-/

namespace Crossmap

open Mapping

variable {ω γ : Type}

/-! ## Rows of a store -/

namespace MemoryStore

@[simp] theorem rows_empty (object : String) : empty.rows object = [] := rfl

theorem rows_append (s : MemoryStore) (object : String) (batch : List Row) (other : String) :
    (s.append object batch).rows other =
      if other = object then s.rows other ++ batch else s.rows other := by
  cases batch with
  | nil => simp [append, rows]
  | cons row rest =>
      simp only [append, List.isEmpty_cons, Bool.false_eq_true, ↓reduceIte, insertRows, rows,
        Dict.update, Dict.get?_insert]
      by_cases same : other = object
      · simp only [same, ↓reduceIte, Option.getD_some]
      · simp only [same, ↓reduceIte]

/-- Every write is counted, that of an empty batch as well. -/
theorem writeCount_append (s : MemoryStore) (object : String) (batch : List Row) (other : String) :
    (s.append object batch).writeCount other =
      if other = object then s.writeCount other + 1 else s.writeCount other := by
  have calls : (s.append object batch).writeCalls =
      s.writeCalls.update object fun n => n.getD 0 + 1 := by
    rw [append]
    split
    · rfl
    · rfl
  rw [writeCount, calls, Dict.update, Dict.get?_insert]
  by_cases same : other = object
  · rw [if_pos same, if_pos same, same]
    rfl
  · rw [if_neg same, if_neg same]
    rfl

/-- A batch changes no object but its own, and an empty one not even that. -/
theorem get?_objects_append (s : MemoryStore) {object other : String} {batch : List Row}
    (apart : object = other → batch = []) :
    (s.append object batch).objects.get? other = s.objects.get? other := by
  cases batch with
  | nil => rfl
  | cons row rest =>
      have ne : other ≠ object := fun same => List.cons_ne_nil _ _ (apart same.symm)
      simp only [append, List.isEmpty_cons, Bool.false_eq_true, ↓reduceIte, insertRows,
        Dict.update, Dict.get?_insert, if_neg ne]

/-- After batches were written one after another, an object has received as many writes more as
there were batches for it. -/
theorem writeCount_foldl_append {δ : Type} (object : δ → String) (batch : δ → List Row)
    (ds : List δ) (s : MemoryStore) (other : String) :
    (ds.foldl (fun s d => s.append (object d) (batch d)) s).writeCount other =
      s.writeCount other + (ds.filter fun d => object d = other).length := by
  induction ds generalizing s with
  | nil => rfl
  | cons d rest ih =>
      rw [List.foldl_cons, ih, writeCount_append]
      by_cases same : object d = other
      · rw [if_pos same.symm, List.filter_cons_of_pos (by simpa using same), List.length_cons]
        omega
      · rw [if_neg (Ne.symm same), List.filter_cons_of_neg (by simpa using same)]

/-- After batches were written one after another, an object holds what it held before and then the
batches written to it. -/
theorem rows_foldl_append {δ : Type} (object : δ → String) (batch : δ → List Row) (ds : List δ)
    (s : MemoryStore) (other : String) :
    (ds.foldl (fun s d => s.append (object d) (batch d)) s).rows other =
      s.rows other ++ (ds.filter fun d => object d = other).flatMap batch := by
  induction ds generalizing s with
  | nil => simp
  | cons d rest ih =>
      rw [List.foldl_cons, ih, rows_append]
      by_cases same : object d = other
      · rw [if_pos same.symm, List.filter_cons_of_pos (by simpa using same), List.flatMap_cons,
          List.append_assoc]
      · rw [if_neg (Ne.symm same), List.filter_cons_of_neg (by simpa using same)]

theorem rows_foldl_append_of_nodup {δ : Type} {object : δ → String} {batch : δ → List Row}
    {ds : List δ} (nodup : (ds.map object).Nodup) {d : δ} (member : d ∈ ds) :
    (ds.foldl (fun s d => s.append (object d) (batch d)) empty).rows (object d) = batch d := by
  rw [rows_foldl_append, filter_key_eq_singleton nodup member, rows_empty, List.nil_append,
    List.flatMap_singleton]

end MemoryStore

/-! ## Writing and reading -/

/-- A declaration whose rows can all be made hands them over in one batch. -/
theorem exec_writeData_of_ok [RecordTarget ω] {m : Model} {records : List Record}
    {d : DataDeclaration} {rows : List Row}
    (made : (recordsFor d records).mapM (writtenRow m d) = .ok rows) (counts : Dict String Nat)
    (s : Session ω γ) :
    ∃ sink, (writeData m records counts d).exec s =
      match RecordTarget.write d.object rows s.stores with
      | (.ok (), w) =>
        (.ok (counts.update d.object fun n => n.getD 0 + rows.length), ⟨w, s.idents, sink⟩)
      | (.error e, w) => (.error (.storage e), ⟨w, s.idents, sink⟩) := by
  have settled := Run.settles_mapM (ω := ω) (γ := γ) (settles_writeRow m d) (recordsFor d records)
  rw [made] at settled
  obtain ⟨sink, ended⟩ := settled s
  refine ⟨sink, ?_⟩
  rw [writeData, Run.exec_bind_ok ended, Run.exec_bind, Run.exec_mapError, Run.exec_writeRows]
  rcases written : RecordTarget.write d.object rows s.stores with ⟨_ | _, w⟩
  · rfl
  · rfl

/-- A target that accepts every batch is handed those of all declarations whose rows can all be
made, and the rows are counted. -/
theorem exec_foldlM_writeData_of_accepts [RecordTarget ω] (put : ω → String → List Row → ω)
    (accepts : ∀ object rows w, RecordTarget.write object rows w = (.ok (), put w object rows))
    {m : Model} {records : List Record} {ds : List DataDeclaration}
    {batch : DataDeclaration → List Row}
    (written : ∀ d ∈ ds, (recordsFor d records).mapM (writtenRow m d) = .ok (batch d))
    (counts : Dict String Nat) (s : Session ω γ) :
    ∃ sink, (ds.foldlM (writeData m records) counts).exec s =
      (.ok (ds.foldl (fun c d => c.update d.object fun n => n.getD 0 + (batch d).length) counts),
        { s with
          stores := ds.foldl (fun w d => put w d.object (batch d)) s.stores
          sink := sink }) := by
  induction ds generalizing counts s with
  | nil => exact ⟨s.sink, rfl⟩
  | cons d rest ih =>
      obtain ⟨sink, ended⟩ := exec_writeData_of_ok (written d List.mem_cons_self) counts s
      rw [accepts] at ended
      obtain ⟨sink', ended'⟩ :=
        ih (fun d member => written d (List.mem_cons_of_mem _ member)) _ _
      exact ⟨sink', by rw [List.foldlM_cons, Run.exec_bind_ok ended, ended']; rfl⟩

theorem exec_foldlM_writeData {m : Model} {records : List Record} {ds : List DataDeclaration}
    {batch : DataDeclaration → List Row}
    (written : ∀ d ∈ ds, (recordsFor d records).mapM (writtenRow m d) = .ok (batch d))
    (counts : Dict String Nat) (s : Session MemoryStore γ) :
    ∃ counts' sink, (ds.foldlM (writeData m records) counts).exec s =
      (.ok counts',
        { s with
          stores := ds.foldl (fun s d => s.append d.object (batch d)) s.stores
          sink := sink }) :=
  ⟨_, exec_foldlM_writeData_of_accepts MemoryStore.append (fun _ _ _ => rfl) written counts s⟩

/-- A declaration without filter whose object holds a row for every one of some things, each row
settling on a record, reads these records and leaves the rows as they are. -/
theorem exec_readData [IdentSource γ] {m : Model} {d : DataDeclaration}
    (unfiltered : d.filter = .empty) {α : Type} {row : α → Row} {record : α → Record} {xs : List α}
    (settles : ∀ x ∈ xs,
      (readDataRow m d (row x) : Run MemoryStore γ ConversionError Record).Settles (.ok (record x)))
    {s : Session MemoryStore γ} (stored : s.stores.rows d.object = xs.map row) :
    ∃ sink, (readData m d).exec s = (.ok (xs.map record), { s with sink := sink }) := by
  have found : ((Run.readRows d.object d.filter).mapError .storage :
      Run MemoryStore γ ConversionError (List Row)).exec s = (.ok (xs.map row), s) := by
    rw [Run.exec_mapError, unfiltered, ← stored]
    have all : ((s.stores.rows d.object).filter fun row => row.satisfies .empty) =
        s.stores.rows d.object := List.filter_eq_self.mpr fun row _ => rfl
    exact Prod.ext (congrArg Except.ok all) rfl
  have records : ((xs.map row).mapM (readDataRow m d) :
      Run MemoryStore γ ConversionError _).Settles (.ok (xs.map record)) := by
    rw [List.mapM_map]
    exact Run.settles_mapM_ok settles
  obtain ⟨sink, ended⟩ := records s
  exact ⟨sink, by rw [readData, Run.exec_bind_ok found, ended]⟩

end Crossmap
