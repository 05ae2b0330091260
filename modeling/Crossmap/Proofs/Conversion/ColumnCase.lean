import Crossmap.Proofs.Conversion.RunPairs
import Crossmap.Proofs.Dict.Lookup
import Crossmap.Table.Memory

/-! # The case of column names

A column is looked up by its exact name first, and by a name in another case only where there is no
exact one. In a row whose column names are apart without regard to case (`Row.NamesApart`), both
ways lead to the same cell, so that the row can be looked up by names without case
(`Row.cell?_eq_lookup`). Writing the column names of such rows in other cases (`Row.Recased`)
therefore changes nothing that filters, checks and conversions find in them: source rows lack the
same columns, and the same records are read (`reading_ignores_column_case`).
-/

namespace Crossmap

open Mapping

variable {γ : Type}

/-! ## Rows in other cases -/

namespace Row

/-- Whether the column names of a row are apart without regard to case. -/
def NamesApart (row : Row) : Prop :=
  row.keys.Pairwise fun name name' => Text.sameIgnoringCase name name' = false

/-- Whether a row is another one with its column names in other cases, cell by cell. -/
def Recased (row row' : Row) : Prop :=
  List.Forall₂ (fun e e' => Text.sameIgnoringCase e.1 e'.1 = true ∧ e.2 = e'.2) row.entries
    row'.entries

/-- A name without case. -/
def caseless (name : String) : String := String.ofList (name.toList.map Char.toLower)

/-- The cells under their names without case. -/
def caselessEntries (row : Row) : List (String × Cell) :=
  row.entries.map fun e => (caseless e.1, e.2)

/-- Names are the same but for case exactly if they are once case is forgotten. -/
theorem sameIgnoringCase_iff {name name' : String} :
    Text.sameIgnoringCase name name' = true ↔ caseless name = caseless name' := by
  rw [caseless, caseless, String.ofList_inj]
  exact beq_iff_eq

/-- Columns have different names but for case exactly if no name occurs twice once case is
forgotten. -/
theorem namesApart_iff {row : Row} :
    row.NamesApart ↔ (row.caselessEntries.map Prod.fst).Nodup := by
  have names : row.caselessEntries.map Prod.fst = row.keys.map caseless := by
    rw [caselessEntries, Dict.keys, List.map_map, List.map_map]
    rfl
  rw [NamesApart, names, List.Nodup, List.pairwise_map]
  apply List.Pairwise.iff
  intro name name'
  rw [← Bool.not_eq_true, sameIgnoringCase_iff]

/-- A cell is looked up among the cells of which the case is forgotten. -/
theorem cellIgnoringCase?_eq_lookup (row : Row) (column : String) :
    row.cellIgnoringCase? column = row.caselessEntries.lookup (caseless column) := by
  rw [cellIgnoringCase?, caselessEntries]
  induction row.entries with
  | nil => rfl
  | cons e rest ih =>
      rw [List.map_cons, List.lookup_cons, List.find?_cons]
      by_cases same : caseless e.1 = caseless column
      · rw [sameIgnoringCase_iff.mpr same, same, beq_self_eq_true]
        rfl
      · rw [Bool.eq_false_iff.mpr (mt sameIgnoringCase_iff.mp same),
          beq_false_of_ne (Ne.symm same)]
        exact ih

/-- **Columns are looked up without regard to case** where their names are apart without it. -/
theorem cell?_eq_lookup {row : Row} (apart : row.NamesApart) (column : String) :
    row.cell? column = row.caselessEntries.lookup (caseless column) := by
  rw [cell?, cellIgnoringCase?_eq_lookup]
  cases exact : row.get? column with
  | none => rfl
  | some cell =>
      have entry : (caseless column, cell) ∈ row.caselessEntries :=
        List.mem_map.mpr ⟨_, Dict.get?_eq_some_iff.mp exact, rfl⟩
      rw [Option.some_or, Dict.lookup_eq_some_of_mem (namesApart_iff.mp apart) entry]

/-- A row has the columns in which a cell is found. -/
theorem hasColumn_eq_isSome (row : Row) (column : String) :
    row.hasColumn column = (row.cell? column).isSome := by
  rw [hasColumn, cell?, Option.isSome_or, cellIgnoringCase?, Option.isSome_map, List.isSome_find?,
    Dict.keys, List.any_map]
  rfl

namespace Recased

variable {row row' : Row}

/-- Rows that differ in the case of their columns have the same cells once case is forgotten. -/
theorem caselessEntries (recased : row.Recased row') :
    row.caselessEntries = row'.caselessEntries := by
  rw [Row.caselessEntries, Row.caselessEntries, ← List.forall₂_eq_eq_eq,
    List.forall₂_map_left_iff, List.forall₂_map_right_iff]
  apply recased.imp
  rintro e e' ⟨names, cells⟩
  rw [sameIgnoringCase_iff.mp names, cells]

/-- The same cells are found in a row whose column names are written in other cases. -/
theorem cell? (recased : row.Recased row') (apart : row.NamesApart) : row.cell? = row'.cell? := by
  have apart' : row'.NamesApart := by
    rw [namesApart_iff, ← recased.caselessEntries]
    exact namesApart_iff.mp apart
  funext column
  rw [cell?_eq_lookup apart, cell?_eq_lookup apart', recased.caselessEntries]

end Recased

variable {row row' : Row}

/-- Rows with the same cells have the same texts. -/
theorem text?_congr (cells : row.cell? = row'.cell?) : row.text? = row'.text? := by
  funext column
  rw [text?, text?, cells]

/-- Rows with the same cells have the same columns. -/
theorem hasColumn_congr (cells : row.cell? = row'.cell?) : row.hasColumn = row'.hasColumn := by
  funext column
  rw [hasColumn_eq_isSome, hasColumn_eq_isSome, cells]

/-- Rows with the same cells satisfy the same filters. -/
theorem satisfies_congr (cells : row.cell? = row'.cell?) : row.satisfies = row'.satisfies := by
  funext filter
  rw [satisfies, satisfies, text?_congr cells]

end Row

/-! ## Stores in other cases -/

/-- Stores whose objects hold rows in which the same cells are found. -/
def MemoryStore.SameCells (s s' : MemoryStore) : Prop :=
  ∀ object, List.Forall₂ (fun row row' : Row => row.cell? = row'.cell?) (s.rows object)
    (s'.rows object)

/-- Stores whose rows differ in the case of their columns give the same cells, whatever name a cell
is asked for by. -/
theorem MemoryStore.sameCells_of_recased {s s' : MemoryStore}
    (apart : ∀ object, ∀ row ∈ s.rows object, row.NamesApart)
    (recased : ∀ object, List.Forall₂ Row.Recased (s.rows object) (s'.rows object)) :
    s.SameCells s' := by
  intro object
  have both := (List.forall₂_and_left _ _).mpr ⟨apart object, recased object⟩
  apply both.imp
  rintro row row' ⟨apart, recased⟩
  exact recased.cell? apart

/-- Related rows that pass a filter together are related after it. -/
theorem forall₂_filter {α β : Type} {R : α → β → Prop} {p : α → Bool} {q : β → Bool}
    (together : ∀ a b, R a b → p a = q b) {l : List α} {l' : List β}
    (related : List.Forall₂ R l l') : List.Forall₂ R (l.filter p) (l'.filter q) := by
  induction related with
  | nil => exact .nil
  | @cons a b l l' first _ ih =>
      rw [List.filter_cons, List.filter_cons, together a b first]
      split
      · exact .cons first ih
      · exact ih

/-- The rows that are found in such stores are those in which the same cells are found. -/
theorem corresponds_readRows_of_sameCells (object : String) (filter : Filter) :
    (Run.readRows object filter : Run MemoryStore γ StorageError _).Corresponds
      (Session.Like MemoryStore.SameCells)
      (List.Forall₂ fun row row' : Row => row.cell? = row'.cell?)
      (Run.readRows object filter : Run MemoryStore γ StorageError _) := by
  intro s s' like
  refine ⟨.ended ?_, like⟩
  apply forall₂_filter _ (like.stores object)
  intro row row' cells
  rw [Row.satisfies_congr cells]

/-- **Reading ignores the case of column names.** Let the column names of every source row be apart
without regard to case. Writing them in other cases, in any of the rows and in each as one likes,
changes nothing that is found missing in the rows; and reading them fails with the same error or
reads the same records, reports the same events, and takes the same idents. -/
theorem reading_ignores_column_case [IdentSource γ] (m : Model) {s s' : MemoryStore}
    (apart : ∀ object, ∀ row ∈ s.rows object, row.NamesApart)
    (recased : ∀ object, List.Forall₂ Row.Recased (s.rows object) (s'.rows object)) (idents : γ)
    (sink : TraceSink) :
    ((missingColumns m).exec ⟨s, idents, sink⟩).1 = ((missingColumns m).exec ⟨s', idents, sink⟩).1 ∧
      let read := (readRecords m).exec ⟨s, idents, sink⟩
      let read' := (readRecords m).exec ⟨s', idents, sink⟩
      read.1 = read'.1 ∧ read.2.sink = read'.2.sink ∧ read.2.idents = read'.2.idents := by
  have start : Session.Like MemoryStore.SameCells (⟨s, idents, sink⟩ : Session MemoryStore γ)
      ⟨s', idents, sink⟩ := ⟨MemoryStore.sameCells_of_recased apart recased, rfl, rfl⟩
  have missing := corresponds_missingColumns_of_rows
    (fun _ _ cells => Row.hasColumn_congr cells) corresponds_readRows_of_sameCells m _ _ start
  have read := (corresponds_readRecords_of_rows stepAlike_like
    (fun _ _ cells => Row.text?_congr cells) corresponds_readRows_of_sameCells m).eq_of_isUpTo
      _ _ start
  obtain ⟨result, after⟩ := read
  exact ⟨endAlike_eq_iff.mp missing.1, endAlike_eq_iff.mp result, after.sink, after.idents⟩

/-- Gates that are open, under idents that are made up, and every gate once more in its wall. -/
def gateModel : Model :=
  { Model.bare "Gates" with
    data := [{ DataDeclaration.bare "G" "GATES" "Gate" with
      filter := .ofList [("State", "open")]
      columns := [⟨"width", "Width", none⟩] }]
    inspections := [{ Inspection.bare "W" "GATES" "Gate" with
      identColumn := some "Id"
      parentColumn := some "WALL"
      columns := [⟨"bars", "Bars", none⟩] }] }

/-- A gate whose columns have certain names. -/
def gateStore (ident state width wall : String) : MemoryStore :=
  MemoryStore.empty.insertRows "GATES"
    [.ofList [(ident, .whole 7), (state, .string "open"), (width, .whole 3), (wall, .string "N")]]

/-- The one row of the store, under the names that are given to its columns. -/
theorem rows_gateStore (ident state width wall object : String) :
    (gateStore ident state width wall).rows object =
      if object = "GATES" then
        [.ofList [(ident, .whole 7), (state, .string "open"), (width, .whole 3),
          (wall, .string "N")]]
      else [] := by
  rw [gateStore, MemoryStore.insertRows, MemoryStore.rows, Dict.update, Dict.get?_insert]
  split
  · rfl
  · rfl

theorem reading_ignores_column_case_gates :
    let s := gateStore "ID" "STATE" "WIDTH" "WALL"
    let s' := gateStore "iD" "State" "width" "waLL"
    (∀ object, ∀ row ∈ s.rows object, row.NamesApart) ∧
      (∀ object, List.Forall₂ Row.Recased (s.rows object) (s'.rows object)) ∧
      ((missingColumns gateModel).exec ⟨s', NumberedIdents.fresh "g", .start true⟩).1 =
        .ok ["Missing column bars in source GATES"] ∧
      let read := (readRecords gateModel).exec ⟨s, NumberedIdents.fresh "g", .start true⟩
      let read' := (readRecords gateModel).exec ⟨s', NumberedIdents.fresh "g", .start true⟩
      read.1.isOk = true ∧ read.1 = read'.1 ∧ read.2.sink = read'.2.sink := by
  intro s s'
  have apart : ∀ object, ∀ row ∈ s.rows object, row.NamesApart := by
    intro object
    rw [rows_gateStore]
    split
    · rw [List.forall_mem_singleton, Row.NamesApart]
      decide
    · exact nofun
  have recased : ∀ object, List.Forall₂ Row.Recased (s.rows object) (s'.rows object) := by
    intro object
    rw [rows_gateStore, rows_gateStore]
    split
    · refine .cons ?_ .nil
      exact .cons ⟨by decide, rfl⟩ <| .cons ⟨by decide, rfl⟩ <| .cons ⟨by decide, rfl⟩ <|
        .cons ⟨by decide, rfl⟩ .nil
    · exact .nil
  obtain ⟨missing, read, sink, -⟩ := reading_ignores_column_case gateModel apart recased
    (NumberedIdents.fresh "g") (.start true)
  refine ⟨apart, recased, ?_, by decide +kernel, read, sink⟩
  rw [← missing]
  decide +kernel

end Crossmap
