import Crossmap.Proofs.Conversion.MemoryRuns
import Crossmap.Proofs.Conversion.Resolution

/-! # Writing records and reading them back

A model is *reversible* when no row it writes loses anything of its record: every class and every
object has one declaration, every declaration has an ident column and no filter, and its columns,
paths and value maps tell their values apart. Records that fit in a reversible model are read back
as they were written (`readRecords_writeRecords`): declaration by declaration and in their order,
the values of each in the order of the columns.
-/

namespace Crossmap

open Mapping

variable {γ δ : Type}

/-! ## What can be read back -/

/-- Whether two records say the same: they agree in everything but the order of their values. -/
structure Record.SameAs (r s : Record) : Prop where
  className : r.className = s.className
  ident : r.ident = s.ident
  parent : r.parent = s.parent
  structAttr : r.structAttr = s.structAttr
  values : ∀ path, r.values.get? path = s.values.get? path

/-- A declaration in whose rows every column and every value of a record has its own place. -/
structure Mapping.DataDeclaration.Reversible (m : Model) (d : DataDeclaration) : Prop where
  identified : d.identColumn.isSome = true
  unfiltered : d.filter = .empty
  columns_nodup : (d.columns.map Column.sourceColumn).Nodup
  ident_apart : ∀ c ∈ d.columns, d.identColumn ≠ some c.sourceColumn
  paths_nodup : (d.columns.map Column.targetPath).Nodup
  paths_plain : ∀ c ∈ d.columns, c.isSynthetic = false
  maps_declared : ∀ c ∈ d.columns, ∀ name ∈ c.valueMap,
    ∃ v ∈ m.valueMap? name, v.entries.values.Nodup

/-- A model through which records can be written and read back. -/
structure Mapping.Model.Reversible (m : Model) : Prop where
  uninspected : m.inspections = []
  classes_nodup : (m.data.map DataDeclaration.className).Nodup
  objects_nodup : (m.data.map DataDeclaration.object).Nodup
  declarations : ∀ d ∈ m.data, d.Reversible m

/-- A record of the class of a declaration that the rows of the declaration can hold. -/
structure Record.FitsIn (m : Model) (d : DataDeclaration) (r : Record) : Prop where
  className : r.className = d.className
  parent : r.parent = none
  structAttr : r.structAttr = none
  paths : ∀ path ∈ r.values.keys, ∃ c ∈ d.columns, c.targetPath = path
  mapped : ∀ c ∈ d.columns, ∀ name ∈ c.valueMap, ∀ v ∈ m.valueMap? name,
    ∀ value ∈ r.values.get? c.targetPath, value = passThrough ∨ value ∈ v.entries.values

/-! ## One row -/

section Row

variable {m : Model} {d : DataDeclaration} {r : Record}

/-- A plain path of a record leads to the value that is stored under it. -/
theorem Record.field?_of_not_synthetic (r : Record) {c : Column} (plain : c.isSynthetic = false) :
    r.field? c.targetPath = r.values.get? c.targetPath := by
  have apart {marker : String} (dollar : marker.toList.head? = some '$') :
      c.targetPath ≠ marker := by
    intro same
    rw [Column.isSynthetic, same, dollar] at plain
    exact nomatch plain
  rw [Record.field?, if_neg (apart rfl), if_neg (apart rfl), if_neg (apart rfl),
    if_neg (apart rfl)]

/-- The cell of a column; null where the value has none. -/
def writtenCell (m : Model) (r : Record) (c : Column) : Cell :=
  match m.backward c.valueMap (r.field? c.targetPath) with
  | .ok cell => cell
  | .error _ => .null

/-- The row of a record, its ident first and then its cells. -/
def rowOf (m : Model) (d : DataDeclaration) (r : Record) : Row :=
  (d.columns.map fun c => (c.sourceColumn, writtenCell m r c)).foldl
    (fun row e => row.insert e.1 e.2) (identRow d r)

/-- What is written for a column of a record that fits is its code in the value map, or the value as
it is. -/
theorem backward_eq_writtenCell (reversible : d.Reversible m) (fits : r.FitsIn m d) {c : Column}
    (member : c ∈ d.columns) :
    m.backward c.valueMap (r.field? c.targetPath) = .ok (writtenCell m r c) := by
  have resolves : ∃ cell, m.backward c.valueMap (r.field? c.targetPath) = .ok cell := by
    cases map : c.valueMap with
    | none => cases r.field? c.targetPath <;> exact ⟨_, rfl⟩
    | some name =>
        obtain ⟨v, declared, nodup⟩ := reversible.maps_declared c member name map
        cases value : r.field? c.targetPath with
        | none => exact ⟨.null, rfl⟩
        | some value' =>
            rw [r.field?_of_not_synthetic (reversible.paths_plain c member)] at value
            exact Model.exists_backward_eq_ok declared nodup
              (fits.mapped c member name map v declared value' value)
  obtain ⟨cell, resolved⟩ := resolves
  rw [writtenCell, resolved]

/-- A record that fits in a reversible declaration is written without a failure. -/
theorem writtenRow_eq_ok (reversible : d.Reversible m) (fits : r.FitsIn m d) :
    writtenRow m d r = .ok (rowOf m d r) := by
  rw [writtenRow, rowOf, List.foldl_map]
  exact foldlM_eq_ok (fun c member row =>
    columnWritten_eq_ok (backward_eq_writtenCell reversible fits member) row) _

/-- The ident column of a row has the ident of its record. -/
theorem text?_rowOf_ident (reversible : d.Reversible m) {column : String}
    (declared : d.identColumn = some column) : (rowOf m d r).text? column = some r.ident := by
  have apart : column ∉ (d.columns.map fun c => (c.sourceColumn, writtenCell m r c)).map
      Prod.fst := by
    intro member
    rw [List.map_map] at member
    obtain ⟨c, inColumns, same⟩ := List.mem_map.mp member
    exact reversible.ident_apart c inColumns (declared.trans (congrArg some same.symm))
  have stands : (identRow d r).get? column = some (.string r.ident) := by
    rw [identRow, declared]
    exact Dict.get?_insert_self _ _ _
  rw [Row.text?, Row.cell?, rowOf, Dict.get?_foldl_insert_of_notMem _ apart, stands]
  rfl

/-- A column of a row has the text of the value that was written into it. -/
theorem text?_rowOf_column (reversible : d.Reversible m) {c : Column} (member : c ∈ d.columns) :
    (rowOf m d r).text? c.sourceColumn = cellText (writtenCell m r c) := by
  have nodup : ((d.columns.map fun c => (c.sourceColumn, writtenCell m r c)).map
      Prod.fst).Nodup := by
    rw [List.map_map]
    exact reversible.columns_nodup
  rw [Row.text?, Row.cell?, rowOf,
    Dict.get?_foldl_insert_of_mem nodup _ (List.mem_map.mpr ⟨c, member, rfl⟩)]
  rfl

/-! ## One record -/

/-- The values of a record, column by column. -/
def columnValues (d : DataDeclaration) (r : Record) : List (String × String) :=
  d.columns.filterMap fun c => (r.values.get? c.targetPath).map (c.targetPath, ·)

/-- The record with its values in the order of the columns. -/
def Record.inColumnOrder (d : DataDeclaration) (r : Record) : Record :=
  { r with values := .ofList (columnValues d r) }

/-- The values that columns take up have different paths if the columns have. -/
theorem nodup_map_fst_columnValues (nodup : (d.columns.map Column.targetPath).Nodup) :
    ((columnValues d r).map Prod.fst).Nodup := by
  have sublist (cs : List Column) :
      ((cs.filterMap fun c => (r.values.get? c.targetPath).map (c.targetPath, ·)).map
        Prod.fst).Sublist (cs.map Column.targetPath) := by
    induction cs with
    | nil => exact .slnil
    | cons c rest ih =>
        rw [List.filterMap_cons]
        cases r.values.get? c.targetPath with
        | none => exact ih.cons _
        | some _ => exact ih.cons_cons _
  exact nodup.sublist (sublist d.columns)

/-- Bringing the values of a fitting record in the order of the columns changes nothing else. -/
theorem sameAs_inColumnOrder (reversible : d.Reversible m) (fits : r.FitsIn m d) :
    r.SameAs (r.inColumnOrder d) := by
  refine ⟨rfl, rfl, rfl, rfl, fun path => ?_⟩
  have nodup := nodup_map_fst_columnValues (r := r) reversible.paths_nodup
  have held (value : String) :
      (r.inColumnOrder d).values.get? path = some value ↔ r.values.get? path = some value := by
    rw [Record.inColumnOrder, Dict.get?_eq_some_iff, Dict.entries_ofList nodup, columnValues,
      List.mem_filterMap]
    constructor
    · rintro ⟨c, -, listed⟩
      obtain ⟨value', stands, same⟩ := Option.map_eq_some_iff.mp listed
      cases same
      exact stands
    · intro stands
      have isKey : path ∈ r.values.keys :=
        List.mem_map.mpr ⟨_, Dict.get?_eq_some_iff.mp stands, rfl⟩
      obtain ⟨c, member, rfl⟩ := fits.paths path isKey
      exact ⟨c, member, by rw [stands]; rfl⟩
  exact (Option.ext held).symm

/-- The columns of the row of a fitting record lead back to the record. -/
theorem columnsRead_rowOf (reversible : d.Reversible m) (fits : r.FitsIn m d) :
    columnsRead m (rowOf m d r) d.columns (.bare d.className r.ident) =
      .ok (r.inColumnOrder d) := by
  have leads (c : Column) (member : c ∈ d.columns) (record : Record) :
      columnRead m (rowOf m d r) record c =
        .ok (record.withValue c.targetPath (r.values.get? c.targetPath)) := by
    apply columnRead_eq_ok
    rw [text?_rowOf_column reversible member,
      Model.forward_cellText_of_backward (backward_eq_writtenCell reversible fits member),
      r.field?_of_not_synthetic (reversible.paths_plain c member)]
  rw [columnsRead, foldlM_eq_ok leads, foldl_withValue d.columns fun c =>
    r.values.get? c.targetPath, Record.inColumnOrder, ← fits.className]
  have absent := fits.parent
  have absent' := fits.structAttr
  cases r
  cases absent
  cases absent'
  rfl

/-- The row of a record that fits is read as that record, with its values in the order of the
columns. -/
theorem settles_readDataRow_rowOf {ω : Type} [IdentSource γ] (reversible : d.Reversible m)
    (fits : r.FitsIn m d) :
    (readDataRow m d (rowOf m d r) : Run ω γ ConversionError Record).Settles
      (.ok (r.inColumnOrder d)) := by
  obtain ⟨column, declared⟩ := Option.isSome_iff_exists.mp reversible.identified
  rw [← columnsRead_rowOf reversible fits]
  exact settles_readDataRow m declared (text?_rowOf_ident reversible declared)

end Row

/-! ## All records -/

section Records

variable {m : Model} {records : List Record}

/-- The declarations of a reversible model whose objects hold the rows of the fitting records read
these records. -/
theorem exec_mapM_readData [IdentSource γ] {ds : List DataDeclaration}
    (reversible : ∀ d ∈ ds, d.Reversible m)
    (fits : ∀ d ∈ ds, ∀ r ∈ recordsFor d records, r.FitsIn m d) {s : Session MemoryStore γ}
    (stored : ∀ d ∈ ds, s.stores.rows d.object = (recordsFor d records).map (rowOf m d)) :
    ∃ sink, (ds.mapM (readData m)).exec s =
      (.ok (ds.map fun d => (recordsFor d records).map (Record.inColumnOrder d)),
        { s with sink := sink }) := by
  induction ds generalizing s with
  | nil => exact ⟨s.sink, rfl⟩
  | cons d rest ih =>
      have rows (r : Record) (member : r ∈ recordsFor d records) :=
        settles_readDataRow_rowOf (ω := MemoryStore) (γ := γ) (reversible d List.mem_cons_self)
          (fits d List.mem_cons_self r member)
      obtain ⟨sink, ended⟩ := exec_readData (reversible d List.mem_cons_self).unfiltered rows
        (stored d List.mem_cons_self)
      obtain ⟨sink', ended'⟩ :=
        ih (fun d member => reversible d (List.mem_cons_of_mem _ member))
          (fun d member => fits d (List.mem_cons_of_mem _ member))
          (s := { s with sink := sink })
          (fun d member => stored d (List.mem_cons_of_mem _ member))
      exact ⟨sink', by
        rw [List.mapM_cons, Run.exec_bind_ok ended, Run.exec_bind_ok ended']; rfl⟩

/-- Records that fit in a reversible declaration are all written without a failure. -/
theorem mapM_writtenRow_eq_ok {d : DataDeclaration} (reversible : d.Reversible m)
    (fits : ∀ r ∈ recordsFor d records, r.FitsIn m d) :
    (recordsFor d records).mapM (writtenRow m d) =
      .ok ((recordsFor d records).map (rowOf m d)) :=
  mapM_eq_ok fun r member => writtenRow_eq_ok reversible (fits r member)

/-- The records of the declarations, each with its values in the order of the columns, are the
records themselves. -/
theorem forall₂_sameAs_inColumnOrder {ds : List DataDeclaration}
    (reversible : ∀ d ∈ ds, d.Reversible m)
    (fits : ∀ d ∈ ds, ∀ r ∈ recordsFor d records, r.FitsIn m d) :
    List.Forall₂ Record.SameAs (ds.flatMap fun d => recordsFor d records)
      (ds.flatMap fun d => (recordsFor d records).map (Record.inColumnOrder d)) := by
  induction ds with
  | nil => exact .nil
  | cons d rest ih =>
      rw [List.flatMap_cons, List.flatMap_cons]
      apply List.rel_append
      · rw [List.forall₂_map_right_iff, List.forall₂_same]
        exact fun r member =>
          sameAs_inColumnOrder (reversible d List.mem_cons_self)
            (fits d List.mem_cons_self r member)
      · exact ih (fun d member => reversible d (List.mem_cons_of_mem _ member))
          fun d member => fits d (List.mem_cons_of_mem _ member)

/-- A record that fits in some declaration fits in the only one of its class. -/
theorem fitsIn_of_mem_recordsFor (nodup : (m.data.map DataDeclaration.className).Nodup)
    (fits : ∀ r ∈ records, ∃ d ∈ m.data, r.FitsIn m d) {d : DataDeclaration} (member : d ∈ m.data)
    {r : Record} (selected : r ∈ recordsFor d records) : r.FitsIn m d := by
  obtain ⟨listed, sameClass⟩ := mem_recordsFor_iff.mp selected
  obtain ⟨d', member', fits'⟩ := fits r listed
  have same : d' = d := List.inj_on_of_nodup_map nodup member' member
    (fits'.className.symm.trans sameClass)
  exact same ▸ fits'

/-- **Records that were written are read back.** Records that each fit in the declaration of their
class, written through a reversible model into an empty store, are all written. Read from there
through the same model, with whatever idents and trace, they are the same records, declaration by
declaration and for each declaration in their order, each with its values in the order of the
columns. -/
theorem readRecords_writeRecords [IdentSource δ] (reversible : m.Reversible)
    (fits : ∀ r ∈ records, ∃ d ∈ m.data, r.FitsIn m d) (s : Session MemoryStore γ)
    (fresh : s.stores = .empty) :
    ∃ counts s', (writeRecords m records).exec s = (.ok counts, s') ∧
      ∀ t : Session MemoryStore δ, t.stores = s'.stores →
        let ofClass (d : DataDeclaration) := records.filter fun r => r.className = d.className
        let back := m.data.flatMap fun d => (ofClass d).map (Record.inColumnOrder d)
        ∃ t', (readRecords m).exec t = (.ok back, t') ∧ t'.stores = t.stores ∧
          List.Forall₂ Record.SameAs (m.data.flatMap ofClass) back := by
  have fitting : ∀ d ∈ m.data, ∀ r ∈ recordsFor d records, r.FitsIn m d :=
    fun _ member _ selected =>
      fitsIn_of_mem_recordsFor reversible.classes_nodup fits member selected
  obtain ⟨counts, sink, written⟩ := exec_foldlM_writeData
    (fun d member => mapM_writtenRow_eq_ok (reversible.declarations d member) (fitting d member))
    .empty s
  refine ⟨counts, _, written, fun t same => ?_⟩
  have stored : ∀ d ∈ m.data, t.stores.rows d.object = (recordsFor d records).map (rowOf m d) := by
    intro d member
    rw [same, fresh]
    exact MemoryStore.rows_foldl_append_of_nodup reversible.objects_nodup member
  obtain ⟨sink', read⟩ := exec_mapM_readData reversible.declarations fitting stored
  refine ⟨{ t with sink := sink' }, ?_, rfl,
    forall₂_sameAs_inColumnOrder reversible.declarations fitting⟩
  rw [readRecords, Run.exec_bind_ok read, reversible.uninspected, List.flatMap_def]
  simp [recordsFor]

end Records

/-- A reversible model of two classes, one of them with a value map. -/
def townModel : Model :=
  { Model.bare "Town" with
    valueMaps := .ofList [("STATE", ⟨"STATE", .ofList [(1, "Active"), (-2, "Inactive")]⟩)]
    data := [
      { DataDeclaration.bare "P" "PERSON" "Town.Person" with
        identColumn := some "ID"
        columns := [⟨"NAME", "Name", none⟩, ⟨"ST", "State", some "STATE"⟩] },
      { DataDeclaration.bare "H" "HOUSE" "Town.House" with
        identColumn := some "KEY"
        columns := [⟨"NAME", "Street", none⟩] }] }

/-- Records of both classes, with a mapped value, one that passes unchanged, and an empty one. -/
def townRecords : List Record :=
  [(Record.bare "Town.Person" "7").setValue "State" "Inactive" |>.setValue "Name" "Ann",
    (Record.bare "Town.House" "").setValue "Street" "",
    (Record.bare "Town.Person" "8").setValue "State" "@"]

theorem readRecords_writeRecords_town :
    townModel.Reversible ∧ (∀ r ∈ townRecords, ∃ d ∈ townModel.data, r.FitsIn townModel d) ∧
      ∃ counts s', (writeRecords townModel townRecords).exec
          (⟨.empty, .fresh "n", .discard⟩ : Session MemoryStore NumberedIdents) =
            (.ok counts, s') ∧
        ∀ t : Session MemoryStore NumberedIdents, t.stores = s'.stores →
          ∃ back t', (readRecords townModel).exec t = (.ok back, t') ∧ t'.stores = t.stores ∧
            back.map Record.ident = ["7", "8", ""] ∧
            List.Forall₂ Record.SameAs (townModel.data.flatMap fun d =>
              townRecords.filter fun r => r.className = d.className) back := by
  have reversible : townModel.Reversible := by
    refine ⟨rfl, by decide, by decide, fun d member => ?_⟩
    rcases List.mem_cons.mp member with rfl | member
    · exact ⟨rfl, rfl, by decide, by decide, by decide, by decide, by decide⟩
    · rcases List.mem_singleton.mp member with rfl
      exact ⟨rfl, rfl, by decide, by decide, by decide, by decide, by decide⟩
  have fits : ∀ r ∈ townRecords, ∃ d ∈ townModel.data, r.FitsIn townModel d := by
    intro r member
    simp only [townRecords, List.mem_cons, List.not_mem_nil, or_false] at member
    rcases member with rfl | rfl | rfl
    · exact ⟨_, List.mem_cons_self, rfl, rfl, rfl, by decide, by decide⟩
    · exact ⟨_, List.mem_cons_of_mem _ List.mem_cons_self, rfl, rfl, rfl, by decide, by decide⟩
    · exact ⟨_, List.mem_cons_self, rfl, rfl, rfl, by decide, by decide⟩
  obtain ⟨counts, s', written, reads⟩ := readRecords_writeRecords (δ := NumberedIdents) reversible
    fits (⟨.empty, .fresh "n", .discard⟩ : Session MemoryStore NumberedIdents) rfl
  refine ⟨reversible, fits, counts, s', written, fun t same => ?_⟩
  obtain ⟨t', read, kept, alike⟩ := reads t same
  exact ⟨_, t', read, kept, by decide +kernel, alike⟩

end Crossmap
