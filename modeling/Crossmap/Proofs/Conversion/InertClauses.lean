import Crossmap.Conversion.Supervised
import Crossmap.Proofs.Conversion.RunLaws
import Crossmap.Proofs.Mapping.ModelReading
import Crossmap.Table.Memory

/-! # Clauses without effect

A conversion consults parts of its models only. Two models are *read alike* if they lead to the same
value maps and their declarations agree in the parts that reading consults (`Model.ReadsLike`); they
are *written alike* if their data declarations agree in the parts that writing consults
(`Model.WritesLike`). Between models that are read and written alike there is one conversion
(`convert_eq_of_alike`), with or without the checks of rows and records (`execute_eq_of_alike`).

In terms of clauses, declarations are read alike where the clauses agree that reading consults
(`Header.readsLike_data`, `Header.readsLike_inspection`), and written alike where the ident columns
and the columns do (`Header.writesLike_data`). Names of models and of declarations, directions,
conversions, short names, blocks of columns, annexes, joins and nestings have no effect at all;
filters and inspections have none in a target.
-/

namespace Crossmap

open Mapping

variable {ω γ : Type}

/-! ## Models that agree in what is consulted -/

namespace Mapping

/-- Data declarations that agree in the parts that writing consults. -/
structure DataDeclaration.WritesLike (d d' : DataDeclaration) : Prop where
  object : d.object = d'.object
  className : d.className = d'.className
  identColumn : d.identColumn = d'.identColumn
  columns : d.columns = d'.columns

/-- Data declarations that agree in the parts that reading consults. -/
structure DataDeclaration.ReadsLike (d d' : DataDeclaration) : Prop extends
    d.WritesLike d' where
  filter : d.filter = d'.filter

/-- Inspections that agree in the parts that reading consults. -/
structure Inspection.ReadsLike (i i' : Inspection) : Prop where
  object : i.object = i'.object
  className : i.className = i'.className
  identColumn : i.identColumn = i'.identColumn
  parentColumn : i.parentColumn = i'.parentColumn
  structAttrColumn : i.structAttrColumn = i'.structAttrColumn
  structAttrMap : i.structAttrMap = i'.structAttrMap
  classColumn : i.classColumn = i'.classColumn
  classMap : i.classMap = i'.classMap
  columns : i.columns = i'.columns

namespace Model

/-- Models with the same value maps. -/
def SharesMaps (m m' : Model) : Prop := ∀ name, m.valueMap? name = m'.valueMap? name

/-- Models that agree, declaration by declaration, in the parts that reading consults. -/
structure ReadsLike (m m' : Model) : Prop where
  valueMaps : m.SharesMaps m'
  data : List.Forall₂ DataDeclaration.ReadsLike m.data m'.data
  inspections : List.Forall₂ Inspection.ReadsLike m.inspections m'.inspections

/-- Models whose data declarations agree, one by one, in the parts that writing consults. -/
structure WritesLike (m m' : Model) : Prop where
  valueMaps : m.SharesMaps m'
  data : List.Forall₂ DataDeclaration.WritesLike m.data m'.data

end Model

end Mapping

/-! ## Clauses that are consulted -/

namespace Mapping

/-- Whether writing consults a clause. -/
def DataClause.isWritten : DataClause → Bool
  | .common (.ident _) | .common (.column _) => true
  | _ => false

/-- Whether reading consults a clause of a data declaration. -/
def DataClause.isRead : DataClause → Bool
  | .filter _ _ => true
  | c => c.isWritten

/-- Whether reading consults a clause of an inspection. -/
def InspectionClause.isRead : InspectionClause → Bool
  | .common (.ident _) | .common (.column _) => true
  | .parent _ | .structAttr _ _ | .classColumn _ _ => true
  | _ => false

/-- What clauses make of related declarations is related, also where those are left out on the one
side that make no difference. -/
theorem foldl_filter_related {δ κ : Type} {R : δ → δ → Prop} {add : δ → κ → δ} {acts : κ → Bool}
    (same : ∀ d d' c, R d d' → R (add d c) (add d' c))
    (idle : ∀ d d' c, acts c = false → R d d' → R (add d c) d') (clauses : List κ) {d d' : δ}
    (related : R d d') : R (clauses.foldl add d) ((clauses.filter acts).foldl add d') := by
  induction clauses generalizing d d' with
  | nil => exact related
  | cons c rest ih =>
      rw [List.foldl_cons]
      cases consulted : acts c with
      | true =>
          rw [List.filter_cons_of_pos consulted, List.foldl_cons]
          exact ih (same d d' c related)
      | false =>
          rw [List.filter_cons_of_neg (Bool.eq_false_iff.mp consulted)]
          exact ih (idle d d' c consulted related)

/-- Clauses that agree in those that make a difference make related declarations. -/
theorem foldl_related_of_filter_eq {δ κ : Type} {R : δ → δ → Prop} {add : δ → κ → δ}
    {acts : κ → Bool} (symm : ∀ {d d'}, R d d' → R d' d)
    (trans : ∀ {d d' d''}, R d d' → R d' d'' → R d d'')
    (same : ∀ d d' c, R d d' → R (add d c) (add d' c))
    (idle : ∀ d d' c, acts c = false → R d d' → R (add d c) d') {clauses clauses' : List κ}
    (agree : clauses.filter acts = clauses'.filter acts) {d d' : δ} (related : R d d') :
    R (clauses.foldl add d) (clauses'.foldl add d') := by
  have left := foldl_filter_related same idle clauses related
  have right := foldl_filter_related same idle clauses' (trans (symm related) related)
  rw [agree] at left
  exact trans left (symm right)

namespace DataDeclaration

variable {d d' d'' : DataDeclaration}

theorem WritesLike.symm (like : d.WritesLike d') : d'.WritesLike d :=
  ⟨like.object.symm, like.className.symm, like.identColumn.symm, like.columns.symm⟩

theorem WritesLike.trans (like : d.WritesLike d') (like' : d'.WritesLike d'') : d.WritesLike d'' :=
  ⟨like.object.trans like'.object, like.className.trans like'.className,
    like.identColumn.trans like'.identColumn, like.columns.trans like'.columns⟩

theorem ReadsLike.symm (like : d.ReadsLike d') : d'.ReadsLike d :=
  ⟨like.toWritesLike.symm, like.filter.symm⟩

theorem ReadsLike.trans (like : d.ReadsLike d') (like' : d'.ReadsLike d'') : d.ReadsLike d'' :=
  ⟨like.toWritesLike.trans like'.toWritesLike, like.filter.trans like'.filter⟩

/-- Declarations that are written alike still are with one more clause, the same for both. -/
theorem WritesLike.add (like : d.WritesLike d') (c : DataClause) :
    (d.add c).WritesLike (d'.add c) := by
  obtain ⟨object, className, identColumn, columns⟩ := like
  cases c with
  | common c => cases c <;> constructor <;> simp only [DataDeclaration.add, *]
  | _ => exact ⟨object, className, identColumn, columns⟩

/-- A clause that writing does not consult leaves a declaration written as before. -/
theorem WritesLike.add_idle {c : DataClause} (idle : c.isWritten = false)
    (like : d.WritesLike d') : (d.add c).WritesLike d' := by
  obtain ⟨object, className, identColumn, columns⟩ := like
  cases c with
  | common c => cases c <;> cases idle <;> exact ⟨object, className, identColumn, columns⟩
  | _ => exact ⟨object, className, identColumn, columns⟩

/-- Declarations that are read alike still are with one more clause, the same for both. -/
theorem ReadsLike.add (like : d.ReadsLike d') (c : DataClause) :
    (d.add c).ReadsLike (d'.add c) := by
  refine ⟨like.toWritesLike.add c, ?_⟩
  have filter := like.filter
  cases c with
  | common c => cases c <;> exact filter
  | filter column literal => exact congrArg (Dict.insert · column literal) filter
  | _ => exact filter

/-- A clause that reading does not consult leaves a declaration read as before. -/
theorem ReadsLike.add_idle {c : DataClause} (idle : c.isRead = false) (like : d.ReadsLike d') :
    (d.add c).ReadsLike d' := by
  have filter := like.filter
  cases c with
  | common c =>
      refine ⟨like.toWritesLike.add_idle idle, ?_⟩
      cases c <;> exact filter
  | filter => cases idle
  | _ => exact ⟨like.toWritesLike.add_idle rfl, filter⟩

end DataDeclaration

namespace Inspection.ReadsLike

variable {i i' i'' : Inspection}

theorem symm (like : i.ReadsLike i') : i'.ReadsLike i where
  object := like.object.symm
  className := like.className.symm
  identColumn := like.identColumn.symm
  parentColumn := like.parentColumn.symm
  structAttrColumn := like.structAttrColumn.symm
  structAttrMap := like.structAttrMap.symm
  classColumn := like.classColumn.symm
  classMap := like.classMap.symm
  columns := like.columns.symm

theorem trans (like : i.ReadsLike i') (like' : i'.ReadsLike i'') : i.ReadsLike i'' where
  object := like.object.trans like'.object
  className := like.className.trans like'.className
  identColumn := like.identColumn.trans like'.identColumn
  parentColumn := like.parentColumn.trans like'.parentColumn
  structAttrColumn := like.structAttrColumn.trans like'.structAttrColumn
  structAttrMap := like.structAttrMap.trans like'.structAttrMap
  classColumn := like.classColumn.trans like'.classColumn
  classMap := like.classMap.trans like'.classMap
  columns := like.columns.trans like'.columns

/-- Inspections that are read alike still are with one more clause, the same for both. -/
theorem add (like : i.ReadsLike i') (c : InspectionClause) : (i.add c).ReadsLike (i'.add c) := by
  obtain ⟨object, className, identColumn, parent, structAttr, structAttrMap, classColumn, classMap,
    columns⟩ := like
  cases c with
  | common c => cases c <;> constructor <;> simp only [Inspection.add, *]
  | _ => constructor <;> simp only [Inspection.add, *]

/-- A clause that reading does not consult leaves an inspection read as before. -/
theorem add_idle {c : InspectionClause} (idle : c.isRead = false) (like : i.ReadsLike i') :
    (i.add c).ReadsLike i' := by
  obtain ⟨object, className, identColumn, parent, structAttr, structAttrMap, classColumn, classMap,
    columns⟩ := like
  cases c with
  | common c => cases c <;> cases idle <;> constructor <;> assumption
  | _ => cases idle

end Inspection.ReadsLike

namespace Header

variable {h h' : Header}

/-- Data declarations are read alike where the clauses agree that reading consults. -/
theorem readsLike_data {clauses clauses' : List DataClause} (object : h.object = h'.object)
    (className : h.className = h'.className)
    (agree : clauses.filter DataClause.isRead = clauses'.filter DataClause.isRead) :
    (h.data clauses).ReadsLike (h'.data clauses') := by
  rw [← foldl_add_bare_data, ← foldl_add_bare_data]
  exact foldl_related_of_filter_eq .symm .trans (fun _ _ c like => like.add c)
    (fun _ _ _ idle like => like.add_idle idle) agree ⟨⟨object, className, rfl, rfl⟩, rfl⟩

/-- Data declarations are written alike where the ident columns and the columns agree. -/
theorem writesLike_data {clauses clauses' : List DataClause} (object : h.object = h'.object)
    (className : h.className = h'.className)
    (agree : clauses.filter DataClause.isWritten = clauses'.filter DataClause.isWritten) :
    (h.data clauses).WritesLike (h'.data clauses') := by
  rw [← foldl_add_bare_data, ← foldl_add_bare_data]
  exact foldl_related_of_filter_eq .symm .trans (fun _ _ c like => like.add c)
    (fun _ _ _ idle like => like.add_idle idle) agree ⟨object, className, rfl, rfl⟩

/-- Inspections are read alike where the clauses agree that reading consults. -/
theorem readsLike_inspection {clauses clauses' : List InspectionClause}
    (object : h.object = h'.object) (className : h.className = h'.className)
    (agree : clauses.filter InspectionClause.isRead = clauses'.filter InspectionClause.isRead) :
    (h.inspection clauses).ReadsLike (h'.inspection clauses') := by
  rw [← foldl_add_bare_inspection, ← foldl_add_bare_inspection]
  exact foldl_related_of_filter_eq .symm .trans (fun _ _ c like => like.add c)
    (fun _ _ _ idle like => like.add_idle idle) agree
    ⟨object, className, rfl, rfl, rfl, rfl, rfl, rfl, rfl⟩

end Header

end Mapping

/-! ## Resolving through shared value maps -/

namespace Mapping.Model.SharesMaps

variable {m m' : Model}

/-- Models that share their value maps demand them alike. -/
theorem requireMap (shared : m.SharesMaps m') : m.requireMap = m'.requireMap := by
  funext name
  rw [Model.requireMap, Model.requireMap, shared name]

/-- Models that share their value maps resolve texts alike. -/
theorem forward (shared : m.SharesMaps m') : m.forward = m'.forward := by
  funext map value
  cases map with
  | none => rfl
  | some name =>
      cases value with
      | none => rfl
      | some value =>
          change m.forwardThrough name value = m'.forwardThrough name value
          rw [forwardThrough, forwardThrough, shared.requireMap]

/-- Models that share their value maps resolve paths alike. -/
theorem backward (shared : m.SharesMaps m') : m.backward = m'.backward := by
  funext map value
  cases value with
  | none => cases map <;> rfl
  | some value =>
      cases map with
      | none => rfl
      | some name =>
          change m.backwardThrough name value = m'.backwardThrough name value
          rw [backwardThrough, backwardThrough, shared.requireMap]

end Mapping.Model.SharesMaps

/-! ## One run -/

/-- Lists of related things are traversed alike where the steps of partners are the same. -/
theorem mapM_eq_of_forall₂ {M : Type → Type} [Monad M] [LawfulMonad M] {δ α : Type}
    {R : δ → δ → Prop} {f f' : δ → M α} (steps : ∀ d d', R d d' → f d = f' d') {l l' : List δ}
    (related : List.Forall₂ R l l') : l.mapM f = l'.mapM f' := by
  induction related with
  | nil => rfl
  | cons first _ ih => rw [List.mapM_cons, List.mapM_cons, steps _ _ first, ih]

/-- Folds over related lists are equal if their steps are equal for related items. -/
theorem foldlM_eq_of_forall₂ {M : Type → Type} [Monad M] {δ α : Type} {R : δ → δ → Prop}
    {f f' : α → δ → M α} (steps : ∀ a d d', R d d' → f a d = f' a d') {l l' : List δ}
    (related : List.Forall₂ R l l') (a : α) : l.foldlM f a = l'.foldlM f' a := by
  induction related generalizing a with
  | nil => rfl
  | cons first _ ih =>
      rw [List.foldlM_cons, List.foldlM_cons, steps a _ _ first]
      exact bind_congr ih

section Read

variable {m m' : Model} {d d' : DataDeclaration} {i i' : Inspection}

/-- Columns are read alike under shared value maps. -/
theorem readColumns_eq (shared : m.SharesMaps m') :
    (readColumns m : Row → String → List Column → Record → Run ω γ ConversionError Record) =
      readColumns m' := by
  have step : (readColumn m : Row → String → Record → Column → Run ω γ ConversionError Record) =
      readColumn m' := by
    funext row detail record c
    rw [readColumn, readColumn, shared.forward]
  funext row detail columns record
  rw [readColumns, readColumns, step]

variable [IdentSource γ]

/-- Rows of declarations that agree in what reading consults are read alike. -/
theorem readDataRow_eq (shared : m.SharesMaps m') (like : d.ReadsLike d') :
    (readDataRow m d : Row → Run ω γ ConversionError Record) = readDataRow m' d' := by
  funext row
  rw [readDataRow, readDataRow, readColumns_eq shared, like.identColumn, like.object,
    like.className, like.columns]

/-- Rows of inspections that agree in what reading consults are inspected alike. -/
theorem inspectRow_eq (shared : m.SharesMaps m') (like : i.ReadsLike i') :
    (inspectRow m i : Row → Run ω γ ConversionError Record) = inspectRow m' i' := by
  funext row
  rw [inspectRow, inspectRow, readColumns_eq shared, shared.forward, like.identColumn, like.object,
    like.className, like.parentColumn, like.structAttrColumn, like.structAttrMap,
    like.classColumn, like.classMap, like.columns]

variable [RecordSource ω]

/-- Models that are read alike give the same records, idents, events and errors. -/
theorem readRecords_eq (like : m.ReadsLike m') :
    (readRecords m : Run ω γ ConversionError (List Record)) = readRecords m' := by
  have data (d d' : DataDeclaration) (same : d.ReadsLike d') :
      (readData m d : Run ω γ ConversionError (List Record)) = readData m' d' := by
    rw [readData, readData, readDataRow_eq like.valueMaps same, same.object, same.filter]
  have inspection (i i' : Inspection) (same : i.ReadsLike i') :
      (inspect m i : Run ω γ ConversionError (List Record)) = inspect m' i' := by
    rw [inspect, inspect, inspectRow_eq like.valueMaps same, same.object]
  rw [readRecords, readRecords, mapM_eq_of_forall₂ data like.data,
    mapM_eq_of_forall₂ inspection like.inspections]

omit [IdentSource γ] in
/-- Models that are read alike find the same columns missing. -/
theorem missingColumns_eq (like : m.ReadsLike m') :
    (missingColumns m : Run ω γ StorageError (List String)) = missingColumns m' := by
  have data (d d' : DataDeclaration) (same : d.ReadsLike d') :
      (dataRowFindings d : Run ω γ StorageError (List RowFinding)) = dataRowFindings d' := by
    rw [dataRowFindings, dataRowFindings, DataDeclaration.columnsRead, DataDeclaration.columnsRead,
      same.object, same.filter, same.identColumn, same.columns]
  have inspection (i i' : Inspection) (same : i.ReadsLike i') :
      (inspectedRowFindings i : Run ω γ StorageError (List RowFinding)) =
        inspectedRowFindings i' := by
    rw [inspectedRowFindings, inspectedRowFindings, Inspection.columnsRead, Inspection.columnsRead,
      same.object, same.identColumn, same.parentColumn, same.structAttrColumn, same.classColumn,
      same.columns]
  rw [missingColumns, missingColumns, mapM_eq_of_forall₂ data like.data,
    mapM_eq_of_forall₂ inspection like.inspections]

end Read

section Write

variable {m m' : Model} {d d' : DataDeclaration}

/-- Declarations that agree in what writing consults make the same rows of records. -/
theorem writeRow_eq (shared : m.SharesMaps m') (like : d.WritesLike d') :
    (writeRow m d : Record → Run ω γ ConversionError Row) = writeRow m' d' := by
  have step : (writeColumn m : Record → String → Row → Column → Run ω γ ConversionError Row) =
      writeColumn m' := by
    funext record detail row c
    rw [writeColumn, writeColumn, shared.backward]
  funext record
  rw [writeRow, writeRow, identRow, identRow, step, like.object, like.identColumn, like.columns]

/-- Models that are written alike write the same rows in the same order, with the same counts. -/
theorem writeRecords_eq [RecordTarget ω] (like : m.WritesLike m') :
    (writeRecords m : List Record → Run ω γ ConversionError (Dict String Nat)) =
      writeRecords m' := by
  funext records
  refine foldlM_eq_of_forall₂ (fun counts d d' same => ?_) like.data Dict.empty
  rw [writeData, writeData, writeRow_eq like.valueMaps same, recordsFor, recordsFor,
    same.className, same.object]

end Write

section Convert

variable [RecordSource ω] [RecordTarget ω] [IdentSource γ] {source source' target target' : Model}

/-- Between models that are read and written alike there is one conversion. -/
theorem convert_eq_of_alike (reads : source.ReadsLike source') (writes : target.WritesLike target')
    (tracing : Bool) :
    (convert source target tracing : Run ω γ ConversionError Outcome) =
      convert source' target' tracing := by
  rw [convert, convert, readRecords_eq reads, writeRecords_eq writes]

/-- Plans between models that are read and written alike are carried out alike, the checks of rows
and records included. -/
theorem execute_eq_of_alike (reads : source.ReadsLike source')
    (writes : target.WritesLike target') (settings : Settings) (schemaName : String)
    (schema : Schema) :
    (settings.execute schema (.build schemaName source target) :
      Run ω γ SupervisionError Outcome) =
        settings.execute schema (.build schemaName source' target') := by
  rw [Settings.execute, Settings.execute, Settings.checkSourceRows, Settings.checkSourceRows,
    Plan.build, Plan.build, missingColumns_eq reads, convert_eq_of_alike reads writes]

/-- **Clauses without effect.** Between models that are read and written alike, conversions from one
session end with one outcome or one error, and leave one session: the stored rows, the idents that
are left, and the trace. So do plans that are carried out, whatever is checked. -/
theorem inert_clauses_have_no_effect (reads : source.ReadsLike source')
    (writes : target.WritesLike target') (before : Session ω γ) :
    (∀ tracing : Bool, (convert source target tracing).exec before =
        (convert source' target' tracing).exec before) ∧
      ∀ (settings : Settings) (schemaName : String) (schema : Schema),
        (settings.execute schema (.build schemaName source target)).exec before =
          (settings.execute schema (.build schemaName source' target')).exec before := by
  constructor
  · intro tracing
    rw [convert_eq_of_alike reads writes]
  · intro settings schemaName schema
    rw [execute_eq_of_alike reads writes]

end Convert

/-! ## Parcels -/

/-- Open parcels and what stands on them. -/
def parcelsModel : Model where
  name := "parcels"
  valueMaps := .ofList [("KIND", ⟨"KIND", .ofList [(1, "House"), (2, "Barn")]⟩)]
  data := [Header.data ⟨"P", "PARCELS", "Parcel"⟩
    [.common (.ident "ID"), .filter "STATE" "open", .common (.column ⟨"USE", "Use", some "KIND"⟩)]]
  inspections := [Header.inspection ⟨"B", "BUILDINGS", "Shed"⟩
    [.common (.ident "ID"), .parent "PARCEL", .classColumn "KIND" "KIND",
      .common (.column ⟨"NOTE", "Note", none⟩)]]

/-- The same with clauses that reading does not consult. -/
def annotatedParcelsModel : Model where
  name := "registry"
  valueMaps := .ofList [("KIND", ⟨"KIND", .ofList [(1, "House"), (2, "Barn")]⟩)]
  data := [Header.data ⟨"Parcels", "PARCELS", "Parcel"⟩
    [.common (.direction .outputOnly), .join ⟨"INNER", "OWNERS", "OWNER", "ID"⟩,
      .nesting ⟨"BUILDINGS", "PARCEL"⟩, .common (.ident "ID"),
      .common (.conversion ⟨"KIND", "USE", "used"⟩), .common (.shortName ⟨"garden", "Ns.Garden"⟩),
      .annexe "Ns.Garden", .annexed "GARDENS",
      .common (.withBlock ⟨"garden", [⟨"SIZE", "Size", none⟩]⟩), .filter "STATE" "open",
      .common (.column ⟨"USE", "Use", some "KIND"⟩)]]
  inspections := [Header.inspection ⟨"Buildings", "BUILDINGS", "Shed"⟩
    [.common (.ident "ID"), .common (.direction .inputOnly), .parent "PARCEL",
      .common (.shortName ⟨"shed", "Ns.Shed"⟩), .common (.conversion ⟨"KIND", "KIND", "shed"⟩),
      .common (.withBlock ⟨"shed", [⟨"SIZE", "Size", none⟩]⟩), .classColumn "KIND" "KIND",
      .common (.column ⟨"NOTE", "Note", none⟩)]]

/-- Houses and parcels, each written to one object. -/
def holdingsModel : Model where
  name := "holdings"
  valueMaps := .ofList [("USES", ⟨"USES", .ofList [(7, "House"), (8, "Barn")]⟩)]
  data := [
    Header.data ⟨"H", "HOUSES", "House"⟩
      [.common (.ident "ID"), .common (.column ⟨"LOT", "$PARENT", none⟩)],
    Header.data ⟨"P", "LOTS", "Parcel"⟩
      [.common (.ident "ID"), .common (.column ⟨"USE", "Use", some "USES"⟩)]]
  inspections := []

/-- The same with clauses that writing does not consult. -/
def annotatedHoldingsModel : Model where
  name := "holdings"
  valueMaps := .ofList [("USES", ⟨"USES", .ofList [(7, "House"), (8, "Barn")]⟩)]
  data := [
    Header.data ⟨"Houses", "HOUSES", "House"⟩
      [.filter "ID" "none", .common (.ident "ID"), .common (.column ⟨"LOT", "$PARENT", none⟩),
        .common (.direction .inputOnly)],
    Header.data ⟨"Parcels", "LOTS", "Parcel"⟩
      [.common (.ident "ID"), .annexed "GARDENS", .common (.column ⟨"USE", "Use", some "USES"⟩)]]
  inspections := [Header.inspection ⟨"I", "HOUSES", "House"⟩
    [.common (.ident "ID"), .common (.column ⟨"X", "Note", none⟩)]]

/-- One parcel that is open and one that is not, with a house. -/
def parcelsSession : Session (Endpoints MemoryStore MemoryStore) NumberedIdents :=
  ⟨⟨(MemoryStore.empty.insertRows "PARCELS" [
        .ofList [("ID", .string "p1"), ("STATE", .string "open"), ("USE", .whole 2)],
        .ofList [("ID", .string "p2"), ("STATE", .string "sold"), ("USE", .whole 1)]]).insertRows
      "BUILDINGS" [.ofList [("ID", .string "b1"), ("PARCEL", .string "p1"), ("KIND", .whole 1)]],
    .empty⟩, .fresh "n", .discard⟩

/-- Parcels are converted alike with and without clauses that nothing consults. -/
theorem inert_clauses_have_no_effect_parcels :
    parcelsModel.ReadsLike annotatedParcelsModel ∧
      holdingsModel.WritesLike annotatedHoldingsModel ∧
      ((convert parcelsModel holdingsModel true).exec parcelsSession).1.map
        (fun outcome => outcome.rowsWritten.entries) = .ok [("HOUSES", 1), ("LOTS", 1)] ∧
      (∀ tracing : Bool, (convert parcelsModel holdingsModel tracing).exec parcelsSession =
        (convert annotatedParcelsModel annotatedHoldingsModel tracing).exec parcelsSession) ∧
      ∀ (settings : Settings) (schemaName : String) (schema : Schema),
        (settings.execute schema (.build schemaName parcelsModel holdingsModel)).exec
            parcelsSession =
          (settings.execute schema
            (.build schemaName annotatedParcelsModel annotatedHoldingsModel)).exec
              parcelsSession := by
  have reads : parcelsModel.ReadsLike annotatedParcelsModel :=
    ⟨fun _ => rfl, .cons (Header.readsLike_data rfl rfl (by decide)) .nil,
      .cons (Header.readsLike_inspection rfl rfl (by decide)) .nil⟩
  have writes : holdingsModel.WritesLike annotatedHoldingsModel :=
    ⟨fun _ => rfl, .cons (Header.writesLike_data rfl rfl (by decide))
      (.cons (Header.writesLike_data rfl rfl (by decide)) .nil)⟩
  have written : ((convert parcelsModel holdingsModel true).exec parcelsSession).1.map
      (fun outcome => outcome.rowsWritten.entries) = .ok [("HOUSES", 1), ("LOTS", 1)] := by
    decide +kernel
  exact ⟨reads, writes, written, inert_clauses_have_no_effect reads writes parcelsSession⟩

end Crossmap
