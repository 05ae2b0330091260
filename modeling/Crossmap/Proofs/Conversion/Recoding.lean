import Crossmap.Proofs.Conversion.Delivery
import Crossmap.Proofs.Conversion.Resolution
import Crossmap.Proofs.Mapping.Rendering

/-! # What arrives in the rows of the target

A value passes from a row to a record through the last of the columns that read it and find
something (`IsLast`, `Reaches`), and from there to a row through the last of the columns that write
to its place. Between a parsed source model and any target model, it keeps its meaning on this way
(`Recodes`): text without value maps and the text that passes unchanged arrive as they are, and a
code arrives as the only code that has its path in the target model. `rows_of_convert` says so of
every row of a conversion.
-/

namespace Crossmap

open Mapping

variable {γ : Type}

/-! ## Reading the columns of a row -/

/-- Whether a column of a row leads to a value. -/
def Reaches (m : Model) (row : Row) (c : Column) : Prop :=
  ∃ value, m.forward c.valueMap (row.text? c.sourceColumn) = .ok (some value)

section Read

variable {m : Model} {row : Row}

/-- Columns whose values go elsewhere or lead to nothing leave the value of a path as it was. -/
theorem get?_columnsRead_of_forall {columns : List Column} {path : String} {r r' : Record}
    (read : columnsRead m row columns r = .ok r')
    (none : ∀ c ∈ columns, c.targetPath = path → ¬ Reaches m row c) :
    r'.values.get? path = r.values.get? path := by
  induction columns generalizing r with
  | nil =>
      obtain rfl := Except.ok.inj read
      rfl
  | cons c rest ih =>
      rw [columnsRead, List.foldlM_cons, bind_eq_ok_iff] at read
      obtain ⟨r₁, first, further⟩ := read
      rw [ih further fun c' member => none c' (List.mem_cons_of_mem _ member)]
      obtain ⟨value, forward, rfl⟩ := columnRead_eq_ok_iff.mp first
      cases value with
      | none => rfl
      | some value =>
          have apart : path ≠ c.targetPath := fun same =>
            none c List.mem_cons_self same.symm ⟨value, forward⟩
          rw [Record.withValue, Record.setValue, Dict.get?_insert, if_neg apart]

/-- The value of a path is what the last column that leads to one for it leads to. -/
theorem get?_columnsRead_of_isLast {columns : List Column} {r r' : Record} {path : String}
    {c : Column} (read : columnsRead m row columns r = .ok r')
    (last : IsLast columns (fun x => x.targetPath = path ∧ Reaches m row x) c) :
    ∃ value, m.forward c.valueMap (row.text? c.sourceColumn) = .ok (some value) ∧
      r'.values.get? path = some value := by
  obtain ⟨before, after, rfl, ⟨rfl, value, forward⟩, none⟩ := last
  rw [columnsRead, List.foldlM_append, bind_eq_ok_iff] at read
  obtain ⟨r₁, -, further⟩ := read
  rw [List.foldlM_cons, bind_eq_ok_iff] at further
  obtain ⟨r₂, step, rest⟩ := further
  obtain ⟨value', forward', rfl⟩ := columnRead_eq_ok_iff.mp step
  obtain rfl := Except.ok.inj (forward.symm.trans forward')
  refine ⟨value, forward, ?_⟩
  rw [get?_columnsRead_of_forall rest fun c' member same reaches =>
    none c' member ⟨same, reaches⟩]
  rw [Record.withValue, Record.setValue, Dict.get?_insert_self]

end Read

namespace Reading

variable {m : Model} {reading : Reading} {row : Row} {record : Record}

/-- The columns of a declaration are read into a record without values. -/
theorem Makes.exists_columnsRead (made : reading.Makes m row record) :
    ∃ start : Record, start.values = .empty ∧
      columnsRead m row reading.columns start = .ok record := by
  cases made with
  | data _ read => exact ⟨_, rfl, read⟩
  | inspection _ _ _ read => exact ⟨_, rfl, read⟩

end Reading

/-! ## Writing the columns of a row -/

section Write

variable {m : Model} {record : Record}

/-- Columns of other names leave a cell as it was. -/
theorem get?_foldlM_columnWritten {columns : List Column} {name : String} {w w' : Row}
    (written : columns.foldlM (columnWritten m record) w = .ok w')
    (none : ∀ c ∈ columns, c.sourceColumn ≠ name) : w'.get? name = w.get? name := by
  induction columns generalizing w with
  | nil =>
      obtain rfl := Except.ok.inj written
      rfl
  | cons c rest ih =>
      rw [List.foldlM_cons, bind_eq_ok_iff] at written
      obtain ⟨w₁, first, further⟩ := written
      obtain ⟨cell, -, rfl⟩ := columnWritten_eq_ok_iff.mp first
      rw [ih further fun c' member => none c' (List.mem_cons_of_mem _ member), Dict.get?_insert,
        if_neg (Ne.symm (none c List.mem_cons_self))]

/-- A cell is what the last column of its name writes. -/
theorem get?_writtenRow_of_isLast {d : DataDeclaration} {c : Column} {w : Row}
    (written : writtenRow m d record = .ok w)
    (last : IsLast d.columns (fun x => x.sourceColumn = c.sourceColumn) c) :
    ∃ cell, m.backward c.valueMap (record.field? c.targetPath) = .ok cell ∧
      w.get? c.sourceColumn = some cell := by
  obtain ⟨before, after, columns, -, none⟩ := last
  rw [writtenRow, columns, List.foldlM_append, bind_eq_ok_iff] at written
  obtain ⟨w₁, -, further⟩ := written
  rw [List.foldlM_cons, bind_eq_ok_iff] at further
  obtain ⟨w₂, step, rest⟩ := further
  obtain ⟨cell, backward, rfl⟩ := columnWritten_eq_ok_iff.mp step
  refine ⟨cell, backward, ?_⟩
  rw [get?_foldlM_columnWritten rest none, Dict.get?_insert_self]

end Write

/-! ## From a cell to a cell -/

/-- The markers that address what a record is besides its values. -/
def markers : List String := [parentMarker, structAttrMarker, classMarker, identMarker]

theorem Record.field?_of_notMem_markers (r : Record) {path : String} (plain : path ∉ markers) :
    r.field? path = r.values.get? path := by
  simp only [markers, List.mem_cons, List.not_mem_nil, or_false, not_or] at plain
  obtain ⟨parent, role, className, ident⟩ := plain
  rw [Record.field?, if_neg parent, if_neg role, if_neg className, if_neg ident]

/-- Whether a cell that is written through one column means what the cell of a row means that is
read through another one. Without value maps its text arrives, and the text that passes value maps
arrives in any case; between value maps a code arrives as the only code of its path. Whatever
arrives leads back to what the cell of the row leads to. -/
structure Recodes (source target : Model) (row : Row) (input output : Column) (cell : Cell) :
    Prop where
  plain : input.valueMap = none → output.valueMap = none →
    ∃ text, row.text? input.sourceColumn = some text ∧ cell = .string text
  passed : row.text? input.sourceColumn = some passThrough → cell = .string passThrough
  recoded : ∀ name ∈ input.valueMap, ∀ name' ∈ output.valueMap,
    row.text? input.sourceColumn ≠ some passThrough →
      ∃ v v' code code' path, source.valueMap? name = some v ∧
        (row.text? input.sourceColumn).bind Code.ofText? = some code ∧ v.path? code = some path ∧
        target.valueMap? name' = some v' ∧ (∀ k, v'.path? k = some path ↔ k = code') ∧
        cell = .whole code'.toInt
  decoded : target.forward output.valueMap (cellText cell) =
    source.forward input.valueMap (row.text? input.sourceColumn)

/-- Whether a model leads no code to the text that passes value maps unchanged. -/
def NoPathPasses (m : Model) : Prop :=
  ∀ name v code, m.valueMap? name = some v → v.path? code ≠ some passThrough

/-- Paths are dotted names, which the text that passes is not. -/
theorem noPathPasses_of_bodyWellFormed {m : Model} (wellFormed : m.BodyWellFormed) :
    NoPathPasses m := by
  intro name v code declared leads
  have entry := wellFormed.valueMaps _ (Dict.get?_eq_some_iff.mp declared)
  have path : IsPath passThrough := entry.paths _ (Dict.get?_eq_some_iff.mp leads)
  exact absurd path (by decide)

/-- What leads to a value and is written for it is recoded. -/
theorem recodes_of_backward {source target : Model} {row : Row} {input output : Column}
    {value : String} {cell : Cell} (apart : NoPathPasses source)
    (forward : source.forward input.valueMap (row.text? input.sourceColumn) = .ok (some value))
    (backward : target.backward output.valueMap (some value) = .ok cell) :
    Recodes source target row input output cell := by
  constructor
  case plain =>
    intro unmapped unmapped'
    rw [unmapped] at forward
    rw [unmapped'] at backward
    have text : row.text? input.sourceColumn = some value := Except.ok.inj forward
    exact ⟨value, text, (Except.ok.inj backward).symm⟩
  case passed =>
    intro passes
    rw [passes, Model.forward_passThrough] at forward
    obtain rfl : passThrough = value := Option.some.inj (Except.ok.inj forward)
    rw [Model.backward_passThrough] at backward
    exact (Except.ok.inj backward).symm
  case recoded =>
    intro name named name' named' coded
    rw [named] at forward
    rw [named'] at backward
    cases text : row.text? input.sourceColumn with
    | none =>
        rw [text] at forward
        cases forward
    | some text' =>
        rw [text] at forward coded
        rcases Model.forwardThrough_eq_ok_some_iff.mp forward with
          ⟨passes, -⟩ | ⟨-, v, code, declared, read, leads⟩
        · exact (coded (congrArg some passes)).elim
        -- No path is the text that passes unchanged, so the second map has to resolve it.
        have notPassed : value ≠ passThrough := fun same =>
          apart name v code declared (leads.trans (congrArg some same))
        rcases Model.backwardThrough_eq_ok_iff.mp backward with
          ⟨passes, -⟩ | ⟨-, v', code', declared', codes, written⟩
        · exact (notPassed passes).elim
        have only (k : Code) : v'.path? k = some value ↔ k = code' := by
          rw [← ValueMap.mem_codesFor_iff, codes, List.mem_singleton]
        exact ⟨v, v', code, code', value, declared, read, leads, declared', only, written⟩
  case decoded =>
    rw [forward]
    exact Model.forward_cellText_of_backward backward

/-! ## From a row to a row -/

/-- Whether a row that a declaration writes carries what certain columns read from a row: the last
column that writes to a name, if it writes no marker, writes what the last column leads to that
leads to something for its path, and null if there is none. -/
def Carries (source target : Model) (row : Row) (inputs outputs : List Column) (w : Row) : Prop :=
  ∀ output, IsLast outputs (fun x => x.sourceColumn = output.sourceColumn) output →
    output.targetPath ∉ markers →
      ((∀ input ∈ inputs, input.targetPath = output.targetPath → ¬ Reaches source row input) →
        w.get? output.sourceColumn = some .null) ∧
      ∀ input, IsLast inputs (fun x => x.targetPath = output.targetPath ∧ Reaches source row x)
        input → ∃ cell, w.get? output.sourceColumn = some cell ∧
          Recodes source target row input output cell

theorem carries_of_writtenRow {source target : Model} {reading : Reading} {d : DataDeclaration}
    {row w : Row} {record : Record} (apart : NoPathPasses source)
    (made : reading.Makes source row record) (written : writtenRow target d record = .ok w) :
    Carries source target row reading.columns d.columns w := by
  intro output last plain
  obtain ⟨start, empty, read⟩ := made.exists_columnsRead
  obtain ⟨cell, backward, stands⟩ := get?_writtenRow_of_isLast written last
  rw [record.field?_of_notMem_markers plain] at backward
  constructor
  · intro none
    rw [get?_columnsRead_of_forall read none, empty, Dict.get?_empty] at backward
    rw [stands, ← Except.ok.inj backward]
  · intro input lastInput
    obtain ⟨value, forward, held⟩ := get?_columnsRead_of_isLast read lastInput
    rw [held] at backward
    exact ⟨cell, stands, recodes_of_backward apart forward backward⟩

/-! ## From a source to a target -/

/-- A row that is written: the declaration that writes it, its record, and the row that the record
is made of with the declaration that reads it. -/
structure Crossing where
  reading : Reading
  row : Row
  record : Record
  declaration : DataDeclaration

/-- The rows that are written to an object, given the records with what they are made of. -/
def crossings (target : Model) (made : List ((Reading × Row) × Record)) (object : String) :
    List Crossing :=
  (target.data.filter fun d => d.object = object).flatMap fun d =>
    (made.filter fun p => p.2.className = d.className).map fun p => ⟨p.1.1, p.1.2, p.2, d⟩

/-- Complete batches hold the rows that are written to an object, each the row of its record. -/
theorem forall₂_writtenRow_crossings {target : Model} {made : List ((Reading × Row) × Record)}
    {batches : List Batch}
    (complete : List.Forall₂ (CompleteBatch target (made.map Prod.snd)) target.data batches)
    (object : String) :
    List.Forall₂ (fun (x : Crossing) w => writtenRow target x.declaration x.record = .ok w)
      (crossings target made object) (rowsUnder object batches) := by
  rw [crossings]
  generalize target.data = ds at complete
  induction complete with
  | nil => exact .nil
  | @cons d b ds batches first _ ih =>
      rw [rowsUnder_cons, first.object]
      by_cases same : d.object = object
      · rw [if_pos same, List.filter_cons_of_pos (by simpa using same), List.flatMap_cons]
        refine List.rel_append ?_ ih
        have rows := first.rows
        rw [List.filter_map, List.forall₂_map_left_iff] at rows
        rw [List.forall₂_map_left_iff]
        exact rows
      · rw [if_neg same, List.filter_cons_of_neg (by simpa using same), List.nil_append]
        exact ih

/-- Whether a conversion conveyed what it read: every record is made of one row of the source, in
the order of the rows, and every row that was added to an object of the target is the row of one
record and carries what was read from the row of that record. -/
structure Conveyed (source target : Model) (before after : Endpoints MemoryStore MemoryStore)
    (outcome : Outcome) : Prop where
  records : List.Forall₂ (fun o record => o.1.Makes source o.2 record)
    (origins source before.source.rows) outcome.records
  rows : ∀ object, ∃ rows,
    after.target.rows object = before.target.rows object ++ rows ∧
      List.Forall₂ (fun (x : Crossing) w => writtenRow target x.declaration x.record = .ok w ∧
          Carries source target x.row x.reading.columns x.declaration.columns w)
        (crossings target ((origins source before.source.rows).zip outcome.records) object) rows

/-- **What a conversion conveys.** From a model read from a text to any target model, every
successful conversion between rows in memory conveys what it reads. -/
theorem conveyed_of_convert [IdentSource γ] {name text : String} {source target : Model}
    {tracing : Bool} {before after : Session (Endpoints MemoryStore MemoryStore) γ}
    {outcome : Outcome} (parsed : Model.parse name text = .ok source)
    (ended : (convert source target tracing).exec before = (.ok outcome, after)) :
    Conveyed source target before.stores after.stores outcome := by
  have apart := noPathPasses_of_bodyWellFormed (bodyWellFormed_of_parse parsed).1
  rcases read : (readRecords source).exec { before with sink := .start tracing } with
    ⟨e | records, mid⟩
  · rw [exec_convert_of_error read] at ended
    cases ended
  obtain ⟨made, kept⟩ := yields_readRecords (holds_endpoints _ _) source
    { before with sink := .start tracing } mid records rfl read
  obtain ⟨batches, fault, stores, sink, result, written, handed, complete, ends⟩ :=
    exec_writeRecords target records mid
  rw [exec_convert_of_ok read written] at ended
  rcases result with e | counts
  · cases ended
  obtain ⟨-, all, -⟩ := ends
  obtain ⟨result, rfl⟩ := Prod.mk.inj ended
  obtain rfl := Except.ok.inj result
  rw [kept] at handed
  rw [all, List.take_length] at complete
  refine ⟨made, fun object => ⟨rowsUnder object batches, ?_, ?_⟩⟩
  · exact (handed.target.rows_memory.2 object).1
  let pairs := (origins source before.stores.source.rows).zip records
  have second : pairs.map Prod.snd = records := List.map_snd_zip (Nat.le_of_eq made.length_eq.symm)
  rw [← second] at complete
  have rows := forall₂_writtenRow_crossings complete object
  have madeOf : ∀ x ∈ crossings target pairs object, x.reading.Makes source x.row x.record := by
    intro x member
    obtain ⟨d, -, inDeclaration⟩ := List.mem_flatMap.mp member
    obtain ⟨p, selected, rfl⟩ := List.mem_map.mp inDeclaration
    exact List.forall₂_zip made (List.mem_filter.mp selected).1
  exact ((List.forall₂_and_left _ _).mpr ⟨madeOf, rows⟩).imp fun x w crossing =>
    ⟨crossing.2, carries_of_writtenRow apart crossing.1 crossing.2⟩

/-- A text about deeds with a state and a note. -/
def deedText : String :=
  "VALUEMAP S { 1 -> Active; 2 -> Lapsed; } " ++
    "DATA D FROM DEEDS CLASS Deed { IDENT ID; COLUMN STATE -> State, S; COLUMN NOTE -> Note; }"

def deedSource : Model :=
  { Model.bare "deeds" with
    valueMaps := .ofList [("S", ⟨"S", .ofList [(1, "Active"), (2, "Lapsed")]⟩)]
    data := [{ DataDeclaration.bare "D" "DEEDS" "Deed" with
      identColumn := some "ID"
      columns := [⟨"STATE", "State", some "S"⟩, ⟨"NOTE", "Note", none⟩] }] }

def deedTarget : Model :=
  { Model.bare "archive" with
    valueMaps := .ofList [("T", ⟨"T", .ofList [(10, "Lapsed"), (20, "Active")]⟩)]
    data := [{ DataDeclaration.bare "A" "ARCHIVE" "Deed" with
      identColumn := some "KEY"
      columns := [⟨"ST", "State", some "T"⟩, ⟨"REMARK", "Note", none⟩] }] }

def deedSession : Session (Endpoints MemoryStore MemoryStore) NumberedIdents :=
  ⟨⟨MemoryStore.empty.insertRows "DEEDS" [
      .ofList [("ID", .whole 7), ("STATE", .string " 2 "), ("NOTE", .string "")],
      .ofList [("ID", .whole 8), ("STATE", .string "@"), ("NOTE", .null)]],
    .empty⟩, .fresh "n", .discard⟩

theorem conveyed_of_convert_deeds :
    Model.parse "deeds" deedText = .ok deedSource ∧
      ∃ outcome after,
        (convert deedSource deedTarget true).exec deedSession = (.ok outcome, after) ∧
          Conveyed deedSource deedTarget deedSession.stores after.stores outcome := by
  have parsed : Model.parse "deeds" deedText = .ok deedSource := by decide +kernel
  obtain ⟨outcome, after, ended⟩ :=
    Run.exists_exec_eq_ok (r := convert deedSource deedTarget true) (s := deedSession)
      (by decide +kernel)
  exact ⟨parsed, outcome, after, ended, conveyed_of_convert parsed ended⟩

end Crossmap
