import Crossmap.Proofs.Conversion.Answers
import Crossmap.Proofs.Conversion.Recoding

/-! # What a record answers for a path

A record that is made of a row answers for a path with the value of the last column that leads to
one for it, and every row that is written for the record takes this value from the path. The four
markers are another matter: they address the parts of the record itself, which the clauses of the
declaration choose and its columns do not (`fields_are_last_values`).
-/

namespace Crossmap

open Mapping

variable {ω γ : Type}

/-! ## Reading one row -/

/-- Whether the markers address what the clauses of an inspection choose for a row. -/
structure Mapping.Inspection.ChoosesParts (m : Model) (i : Inspection) (row : Row)
    (record : Record) : Prop where
  parent : record.field? parentMarker = textIn? row i.parentColumn
  role : m.forward i.structAttrMap (textIn? row i.structAttrColumn) =
    .ok (record.field? structAttrMarker)
  className : ∃ chosen, m.forward i.classMap (textIn? row i.classColumn) = .ok chosen ∧
    record.field? classMarker = some (chosen.getD i.className)
  ident : record.field? identMarker = some record.ident
  identified : Identifies row i.identColumn record.ident

namespace Reading

/-- The inspection that makes the same records: for a data declaration it is one without columns for
parent, role and class. -/
def asInspection : Reading → Inspection
  | .data d =>
    { Inspection.bare d.name d.object d.className with
      identColumn := d.identColumn
      columns := d.columns }
  | .inspection i => i

/-- Makes the record of a row. -/
def readRow [IdentSource γ] (m : Model) (row : Row) : Reading → Run ω γ ConversionError Record
  | .data d => readDataRow m d row
  | .inspection i => inspectRow m i row

variable {m : Model} {r : Reading} {row : Row} {record : Record}

/-- The record that is read off a row is one that the declaration makes of it. -/
theorem makes_of_readRow [IdentSource γ] {s s' : Session ω γ}
    (read : (r.readRow m row).exec s = (.ok record, s')) : r.Makes m row record := by
  cases r with
  | data d => exact (yields_readDataRow m d row s s' record rfl read).1
  | inspection i => exact (yields_inspectRow m i row s s' record rfl read).1

/-- A data declaration makes the records of its inspection. -/
theorem Makes.asInspection (made : r.Makes m row record) :
    (Reading.inspection r.asInspection).Makes m row record := by
  cases made with
  | data identified read => exact .inspection identified rfl rfl read
  | inspection identified roleRead classRead read =>
      exact .inspection identified roleRead classRead read

/-- Columns do not take part in what the markers address. -/
theorem Makes.choosesParts (made : r.Makes m row record) :
    r.asInspection.ChoosesParts m row record := by
  cases made.asInspection with
  | inspection identified roleRead classRead read =>
      obtain ⟨values, rfl⟩ := exists_values_of_columnsRead read
      exact ⟨rfl, roleRead, ⟨_, classRead, rfl⟩, rfl, identified⟩

end Reading

/-! ## Paths and values -/

/-- Whether a record conveys a value at a path: every row that is written for it takes the value
from there, for the last of the columns of one name. -/
def Record.Conveys (ω γ : Type) (record : Record) (path value : String) : Prop :=
  ∀ (m : Model) (d : DataDeclaration) (s s' : Session ω γ) (w : Row) (c : Column),
    (writeRow m d record).exec s = (.ok w, s') →
      IsLast d.columns (fun x => x.sourceColumn = c.sourceColumn) c → c.targetPath = path →
        ∃ cell, m.backward c.valueMap (some value) = .ok cell ∧ w.get? c.sourceColumn = some cell

/-- A record conveys at a path the value that it answers there. -/
theorem Record.conveys_of_field? {record : Record} {path value : String}
    (field : record.field? path = some value) : record.Conveys ω γ path value := by
  intro m d s s' w c written last same
  obtain ⟨sink, settled⟩ := settles_writeRow m d record s
  obtain ⟨result, -⟩ := Prod.mk.inj (settled.symm.trans written)
  obtain ⟨cell, backward, stands⟩ := get?_writtenRow_of_isLast result last
  rw [same, field] at backward
  exact ⟨cell, backward, stands⟩

/-- **What a record answers for a path.** A record that is made of a row answers for every path but
a marker with the value of the last column that leads to one for it, and conveys this value to the
rows that are written. For the markers it answers with what the clauses of its declaration chose. -/
theorem fields_are_last_values [IdentSource γ] {m : Model} {r : Reading} {row : Row}
    {record : Record} {s s' : Session ω γ}
    (read : (r.readRow m row).exec s = (.ok record, s')) :
    (∀ path, path ∉ markers → (∃ c ∈ r.columns, c.targetPath = path ∧ Reaches m row c) →
      ∃ c value, IsLast r.columns (fun x => x.targetPath = path ∧ Reaches m row x) c ∧
        m.forward c.valueMap (row.text? c.sourceColumn) = .ok (some value) ∧
        record.field? path = some value ∧ record.Conveys ω γ path value) ∧
      r.asInspection.ChoosesParts m row record := by
  have made := Reading.makes_of_readRow read
  refine ⟨fun path plain reached => ?_, made.choosesParts⟩
  obtain ⟨c, last⟩ := exists_isLast reached
  obtain ⟨start, -, columns⟩ := made.exists_columnsRead
  obtain ⟨value, forward, held⟩ := get?_columnsRead_of_isLast columns last
  have field : record.field? path = some value := by
    rw [record.field?_of_notMem_markers plain, held]
  exact ⟨c, value, last, forward, field, Record.conveys_of_field? field⟩

/-- Lots whose owner is read at an attribute, twice, and at every marker. -/
def ownerText : String :=
  "INSPECTION I FROM LOTS CLASS Lot \x7b IDENT ID; COLUMN OWNER -> Owner; COLUMN HEIR -> Owner; " ++
    "COLUMN OWNER -> $PARENT; COLUMN OWNER -> $STRUCTATTR; COLUMN OWNER -> $CLASS; " ++
    "COLUMN OWNER -> $IDENT; \x7d"

def ownerInspection : Inspection :=
  { Inspection.bare "I" "LOTS" "Lot" with
    identColumn := some "ID"
    columns := ⟨"OWNER", "Owner", none⟩ :: ⟨"HEIR", "Owner", none⟩ ::
      markers.map fun path => ⟨"OWNER", path, none⟩ }

def ownerModel : Model := { Model.bare "owners" with inspections := [ownerInspection] }

def ownerRow : Row := .ofList [("ID", .string "1"), ("OWNER", .string "7")]

/-- The columns under which the attribute and the markers are written. -/
def ownerTarget : Model :=
  { Model.bare "owned" with
    data := [{ DataDeclaration.bare "D" "OWNED" "Lot" with
      columns := [⟨"A", "Owner", none⟩, ⟨"P", parentMarker, none⟩, ⟨"S", structAttrMarker, none⟩,
        ⟨"C", classMarker, none⟩, ⟨"I", identMarker, none⟩] }] }

def ownerSession : Session (Endpoints MemoryStore MemoryStore) NumberedIdents :=
  ⟨⟨MemoryStore.empty.insertRows "LOTS" [ownerRow], .empty⟩, .fresh "n", .discard⟩

/-- The record of the lot: the columns put values at the markers, and the clauses choose its parts. -/
def ownerRecord : Record :=
  { Record.bare "Lot" "1" with
    values := .ofList (("Owner", "7") :: markers.map fun path => (path, "7")) }

/-- What the lot is read as. -/
theorem exec_readRow_owner :
    ∃ after, ((Reading.inspection ownerInspection).readRow ownerModel ownerRow).exec ownerSession =
      (.ok ownerRecord, after) := by
  have result : (((Reading.inspection ownerInspection).readRow ownerModel ownerRow).exec
      ownerSession).1 = .ok ownerRecord := by decide +kernel
  exact ⟨_, Prod.ext result rfl⟩

theorem fields_are_last_values_owner :
    (∃ after, ((Reading.inspection ownerInspection).readRow ownerModel ownerRow).exec ownerSession =
        (.ok ownerRecord, after)) ∧
      "Owner" ∉ markers ∧
      Reaches ownerModel ownerRow ⟨"OWNER", "Owner", none⟩ ∧
      ownerRecord.field? "Owner" = some "7" ∧
      ownerRecord.Conveys (Endpoints MemoryStore MemoryStore) NumberedIdents "Owner" "7" ∧
      ownerInspection.ChoosesParts ownerModel ownerRow ownerRecord := by
  obtain ⟨after, read⟩ := exec_readRow_owner
  obtain ⟨answers, parts⟩ := fields_are_last_values read
  have plain : "Owner" ∉ markers := by decide
  have reaches : Reaches ownerModel ownerRow ⟨"OWNER", "Owner", none⟩ := ⟨"7", by decide +kernel⟩
  have member : (⟨"OWNER", "Owner", none⟩ : Column) ∈ ownerInspection.columns := by decide
  obtain ⟨_, value, _, _, field, conveys⟩ := answers "Owner" plain ⟨_, member, rfl, reaches⟩
  have owner : ownerRecord.field? "Owner" = some "7" := by decide
  obtain rfl := Option.some.inj (field.symm.trans owner)
  exact ⟨⟨after, read⟩, plain, reaches, field, conveys, parts⟩

/-- Whatever columns lead to at a marker stays among the values of the record. The marker answers
otherwise, and a row that is written takes this answer. -/
theorem markers_answer_otherwise :
    Model.parse "owners" ownerText = .ok ownerModel ∧
      (∃ after, ((Reading.inspection ownerInspection).readRow ownerModel ownerRow).exec
        ownerSession = (.ok ownerRecord, after)) ∧
      (∀ path ∈ markers,
        (∃ c ∈ ownerInspection.columns, c.targetPath = path) ∧
          (∀ c ∈ ownerInspection.columns, c.targetPath = path →
            ownerModel.forward c.valueMap (ownerRow.text? c.sourceColumn) = .ok (some "7")) ∧
          ownerRecord.values.get? path = some "7" ∧ ownerRecord.field? path ≠ some "7") ∧
      (((convert ownerModel ownerTarget false).exec ownerSession).2.stores.target.rows "OWNED").map
        (fun w => w.entries.map fun e => (e.1, cellText e.2)) =
          [[("A", some "7"), ("P", none), ("S", none), ("C", some "Lot"), ("I", some "1")]] :=
  ⟨by decide +kernel, exec_readRow_owner, by decide +kernel, by decide +kernel⟩

end Crossmap
