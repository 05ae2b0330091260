import Crossmap.Conversion.Convert
import Crossmap.Proofs.Conversion.Results
import Crossmap.Proofs.Conversion.RunLaws
import Crossmap.Proofs.Dict.Lookup

/-! # Rows and records without a session

Writing the row of a record settles on a result that depends on the model and the record alone
(`settles_writeRow`), and so does reading the columns of a row (`settles_readColumns`). The record
of a row settles as well where its ident stands in a column (`settles_readDataRow`).
-/

namespace Crossmap

open Mapping

variable {ω γ : Type}

/-! ## Writing -/

/-- The row with the cell of one more column. -/
def columnWritten (m : Model) (record : Record) (row : Row) (c : Column) :
    Except ConversionError Row := do
  let cell ← (m.backward c.valueMap (record.field? c.targetPath)).mapError .resolution
  return row.insert c.sourceColumn cell

/-- The row of a record in a data declaration. -/
def writtenRow (m : Model) (d : DataDeclaration) (record : Record) : Except ConversionError Row :=
  d.columns.foldlM (columnWritten m record) (identRow d record)

/-- The records that a declaration writes are those of its class. -/
theorem mem_recordsFor_iff {d : DataDeclaration} {records : List Record} {record : Record} :
    record ∈ recordsFor d records ↔ record ∈ records ∧ record.className = d.className := by
  rw [recordsFor, List.mem_filter, decide_eq_true_eq]

/-- Writing a column comes to what is settled for it without a session. -/
theorem settles_writeColumn (m : Model) (record : Record) (detail : String) (row : Row)
    (c : Column) :
    (writeColumn m record detail row c : Run ω γ ConversionError Row).Settles
      (columnWritten m record row c) :=
  (Run.settles_ofExcept _).bind fun _ =>
    (Run.settles_report _).bind fun _ => Run.settles_pure _

/-- Writing a row comes to what is settled for it without a session. -/
theorem settles_writeRow (m : Model) (d : DataDeclaration) (record : Record) :
    (writeRow m d record : Run ω γ ConversionError Row).Settles (writtenRow m d record) :=
  Run.settles_foldlM (settles_writeColumn m record _) _ _

/-- A column is written exactly if its value resolves, and puts the cell under its own name. -/
theorem columnWritten_eq_ok_iff {m : Model} {record : Record} {c : Column} {w w' : Row} :
    columnWritten m record w c = .ok w' ↔
      ∃ cell, m.backward c.valueMap (record.field? c.targetPath) = .ok cell ∧
        w' = w.insert c.sourceColumn cell := by
  rw [columnWritten, bind_eq_ok_iff]
  constructor
  · rintro ⟨cell, resolved, ended⟩
    cases backward : m.backward c.valueMap (record.field? c.targetPath) with
    | error e =>
        rw [backward] at resolved
        cases resolved
    | ok cell' =>
        rw [backward] at resolved
        obtain rfl := Except.ok.inj resolved
        exact ⟨cell', rfl, (Except.ok.inj ended).symm⟩
  · rintro ⟨cell, backward, rfl⟩
    exact ⟨cell, by rw [backward]; rfl, rfl⟩

/-- A column whose value resolves puts the cell under its own name. -/
theorem columnWritten_eq_ok {m : Model} {record : Record} {c : Column} {cell : Cell}
    (resolved : m.backward c.valueMap (record.field? c.targetPath) = .ok cell) (row : Row) :
    columnWritten m record row c = .ok (row.insert c.sourceColumn cell) :=
  columnWritten_eq_ok_iff.mpr ⟨cell, resolved, rfl⟩

/-- Columns that are written put one cell each, one after another. -/
theorem exists_of_foldlM_columnWritten {m : Model} {record : Record} {columns : List Column}
    {w w' : Row} (written : columns.foldlM (columnWritten m record) w = .ok w') :
    ∃ cells : List (String × Cell), cells.map Prod.fst = columns.map Column.sourceColumn ∧
      w' = cells.foldl (fun row e => row.insert e.1 e.2) w := by
  induction columns generalizing w with
  | nil => exact ⟨[], rfl, (Except.ok.inj written).symm⟩
  | cons c rest ih =>
      rw [List.foldlM_cons, bind_eq_ok_iff] at written
      obtain ⟨w₁, first, further⟩ := written
      obtain ⟨cell, -, rfl⟩ := columnWritten_eq_ok_iff.mp first
      obtain ⟨cells, names, rfl⟩ := ih further
      exact ⟨(c.sourceColumn, cell) :: cells, congrArg (c.sourceColumn :: ·) names, rfl⟩

/-- The names of the columns that a declaration writes: that of the ident, and those of its
columns. -/
def Mapping.DataDeclaration.columnNames (d : DataDeclaration) : List String :=
  d.identColumn.toList ++ d.columns.map Column.sourceColumn

/-- All rows of a declaration have the same columns, each where its name comes first. -/
theorem keys_writtenRow {m : Model} {d : DataDeclaration} {record : Record} {w : Row}
    (written : writtenRow m d record = .ok w) : w.keys = d.columnNames.eraseDups := by
  obtain ⟨cells, names, rfl⟩ := exists_of_foldlM_columnWritten written
  rw [DataDeclaration.columnNames, ← names, identRow]
  cases d.identColumn with
  | none => exact Dict.keys_ofList cells
  | some column => exact Dict.keys_ofList ((column, .string record.ident) :: cells)

/-! ## Reading -/

/-- The record with the value of one more column, if it leads to a value. -/
def Record.withValue (record : Record) (path : String) : Option String → Record
  | some value => record.setValue path value
  | none => record

/-- The record with what one more column leads to. -/
def columnRead (m : Model) (row : Row) (record : Record) (c : Column) :
    Except ConversionError Record := do
  let value ← (m.forward c.valueMap (row.text? c.sourceColumn)).mapError .resolution
  return record.withValue c.targetPath value

/-- The record with what the columns lead to. -/
def columnsRead (m : Model) (row : Row) (columns : List Column) (record : Record) :
    Except ConversionError Record :=
  columns.foldlM (columnRead m row) record

/-- Reading a column comes to what is settled for it without a session. -/
theorem settles_readColumn (m : Model) (row : Row) (detail : String) (record : Record)
    (c : Column) :
    (readColumn m row detail record c : Run ω γ ConversionError Record).Settles
      (columnRead m row record c) := by
  refine (Run.settles_ofExcept _).bind fun value => ?_
  cases value <;> exact (Run.settles_report _).bind fun _ => Run.settles_pure _

/-- Reading columns comes to what is settled for them without a session. -/
theorem settles_readColumns (m : Model) (row : Row) (detail : String) (columns : List Column)
    (record : Record) :
    (readColumns m row detail columns record : Run ω γ ConversionError Record).Settles
      (columnsRead m row columns record) :=
  Run.settles_foldlM (settles_readColumn m row detail) _ _

/-- The record of a row whose ident stands in a column is a matter of the row alone. -/
theorem settles_readDataRow [IdentSource γ] (m : Model) {d : DataDeclaration} {row : Row}
    {column ident : String} (declared : d.identColumn = some column)
    (stands : row.text? column = some ident) :
    (readDataRow m d row : Run ω γ ConversionError Record).Settles
      (columnsRead m row d.columns (.bare d.className ident)) := by
  have ident_settles : (identOf row d.identColumn d.object : Run ω γ ConversionError String).Settles
      (.ok ident) := by
    simp only [identOf, declared, stands]
    exact Run.settles_pure ident
  exact ident_settles.bind fun ident => settles_readColumns m row _ _ (.bare d.className ident)

/-- A column is read exactly if its text resolves, and puts the value at its path. -/
theorem columnRead_eq_ok_iff {m : Model} {row : Row} {c : Column} {r r' : Record} :
    columnRead m row r c = .ok r' ↔
      ∃ value, m.forward c.valueMap (row.text? c.sourceColumn) = .ok value ∧
        r' = r.withValue c.targetPath value := by
  rw [columnRead, bind_eq_ok_iff]
  constructor
  · rintro ⟨value, resolved, ended⟩
    cases forward : m.forward c.valueMap (row.text? c.sourceColumn) with
    | error e =>
        rw [forward] at resolved
        cases resolved
    | ok value' =>
        rw [forward] at resolved
        obtain rfl := Except.ok.inj resolved
        exact ⟨value', rfl, (Except.ok.inj ended).symm⟩
  · rintro ⟨value, forward, rfl⟩
    exact ⟨value, by rw [forward]; rfl, rfl⟩

/-- A column whose text resolves puts the value at its path. -/
theorem columnRead_eq_ok {m : Model} {row : Row} {c : Column} {value : Option String}
    (resolved : m.forward c.valueMap (row.text? c.sourceColumn) = .ok value) (record : Record) :
    columnRead m row record c = .ok (record.withValue c.targetPath value) :=
  columnRead_eq_ok_iff.mpr ⟨value, resolved, rfl⟩

/-- Reading columns puts values into a record and leaves all else as it is. -/
theorem exists_values_of_columnsRead {m : Model} {row : Row} {columns : List Column}
    {r r' : Record} (read : columnsRead m row columns r = .ok r') :
    ∃ values, r' = { r with values := values } := by
  induction columns generalizing r with
  | nil => exact ⟨r.values, (Except.ok.inj read).symm⟩
  | cons c rest ih =>
      rw [columnsRead, List.foldlM_cons, bind_eq_ok_iff] at read
      obtain ⟨r₁, first, further⟩ := read
      obtain ⟨value, -, rfl⟩ := columnRead_eq_ok_iff.mp first
      obtain ⟨values, rfl⟩ := ih further
      refine ⟨values, ?_⟩
      cases value with
      | none => rfl
      | some value => rfl

/-- Adding values to a record one after another inserts those that there are. -/
theorem foldl_withValue (columns : List Column) (value : Column → Option String)
    (record : Record) :
    columns.foldl (fun r c => r.withValue c.targetPath (value c)) record =
      { record with
        values := (columns.filterMap fun c => (value c).map (c.targetPath, ·)).foldl
          (fun d e => d.insert e.1 e.2) record.values } := by
  induction columns generalizing record with
  | nil => rfl
  | cons c rest ih =>
      rw [List.foldl_cons, ih, List.filterMap_cons]
      cases value c <;> rfl

end Crossmap
