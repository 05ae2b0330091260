import Crossmap.Proofs.Conversion.RowResults
import Crossmap.Table.Memory

/-! # The rows that records are made of

Reading the records of a model keeps whatever part of the stores the source does not touch
(`keeps_readRecords`). Where the source gives the rows that its objects hold (`Holds`), every record
is made of one row by one declaration (`Reading.Makes`): declaration by declaration, the rows of
each in the order in which its object holds them, without those that its filter excludes
(`yields_readRecords`).
-/

namespace Crossmap

open Mapping

variable {ω τ γ : Type}

/-! ## What reading keeps -/

section Keeps

variable {π : Type} {part : ω → π} [IdentSource γ]

/-- Finding an ident touches no stores. -/
theorem keeps_identOf (row : Row) (identColumn : Option String) (object : String) :
    (identOf row identColumn object : Run ω γ ConversionError String).Keeps part := by
  unfold identOf
  split
  case h_1 => exact Run.keeps_nextIdent
  case h_2 =>
    split
    case h_1 => exact Run.keeps_pure _
    case h_2 => exact Run.keeps_throw _

/-- Reading a row that has been given touches no stores. -/
theorem keeps_readDataRow (m : Model) (d : DataDeclaration) (row : Row) :
    (readDataRow m d row : Run ω γ ConversionError Record).Keeps part :=
  (keeps_identOf row _ _).bind fun _ => (settles_readColumns m row _ _ _).keeps

/-- Inspecting a row that has been given touches no stores. -/
theorem keeps_inspectRow (m : Model) (i : Inspection) (row : Row) :
    (inspectRow m i row : Run ω γ ConversionError Record).Keeps part := by
  refine (keeps_identOf row _ _).bind fun _ => ?_
  refine (Run.keeps_ofExcept _).bind fun _ => ?_
  refine (Run.keeps_ofExcept _).bind fun _ => ?_
  exact (settles_readColumns m row _ _ _).keeps

/-- What reads of the source keep, reading the records of a model keeps. -/
theorem keeps_readRecords [RecordSource ω]
    (reads : ∀ object filter w, part (RecordSource.read object filter w).2 = part w) (m : Model) :
    (readRecords m : Run ω γ ConversionError (List Record)).Keeps part := by
  have rows (object : String) (filter : Filter) : ((Run.readRows object filter).mapError .storage :
      Run ω γ ConversionError (List Row)).Keeps part := by
    apply Run.Keeps.mapError
    intro s
    exact reads object filter s.stores
  refine (Run.keeps_mapM (fun d => ?_) m.data).bind fun _ => ?_
  · exact (rows _ _).bind fun rows => Run.keeps_mapM (keeps_readDataRow m d) rows
  · refine (Run.keeps_mapM (fun i => ?_) m.inspections).bind fun _ => Run.keeps_pure _
    exact (rows _ _).bind fun rows => Run.keeps_mapM (keeps_inspectRow m i) rows

end Keeps

/-! ## Readings -/

/-- A declaration by which rows are read. -/
inductive Reading where
  | data (d : DataDeclaration)
  | inspection (i : Inspection)

/-- Whether an ident is that of a row: the text in the ident column, and any text where no column is
declared. -/
def Identifies (row : Row) (identColumn : Option String) (ident : String) : Prop :=
  ∀ column ∈ identColumn, row.text? column = some ident

namespace Reading

/-- The columns whose values go into the records. -/
def columns : Reading → List Column
  | .data d => d.columns
  | .inspection i => i.columns

/-- The rows that are read, of those that the objects hold. -/
def rows (held : String → List Row) : Reading → List Row
  | .data d => (held d.object).filter fun row => row.satisfies d.filter
  | .inspection i => held i.object

/-- Whether a record is made of a row. -/
inductive Makes (m : Model) : Reading → Row → Record → Prop
  | data {d : DataDeclaration} {row : Row} {ident : String} {record : Record}
      (identified : Identifies row d.identColumn ident)
      (read : columnsRead m row d.columns (.bare d.className ident) = .ok record) :
      Makes m (.data d) row record
  | inspection {i : Inspection} {row : Row} {ident : String} {role chosen : Option String}
      {record : Record} (identified : Identifies row i.identColumn ident)
      (roleRead : m.forward i.structAttrMap (textIn? row i.structAttrColumn) = .ok role)
      (classRead : m.forward i.classMap (textIn? row i.classColumn) = .ok chosen)
      (read : columnsRead m row i.columns
        { Record.bare (chosen.getD i.className) ident with
          parent := textIn? row i.parentColumn
          structAttr := role } = .ok record) :
      Makes m (.inspection i) row record

end Reading

/-- The declarations by which the records of a model are read. -/
def Mapping.Model.readings (m : Model) : List Reading :=
  m.data.map .data ++ m.inspections.map .inspection

namespace Mapping.Model

variable {m : Model}

theorem mem_readings_of_data {d : DataDeclaration} (member : d ∈ m.data) :
    Reading.data d ∈ m.readings :=
  List.mem_append_left _ (List.mem_map_of_mem member)

theorem mem_readings_of_inspection {i : Inspection} (member : i ∈ m.inspections) :
    Reading.inspection i ∈ m.readings :=
  List.mem_append_right _ (List.mem_map_of_mem member)

/-- Records are read by the data declarations and the inspections of a model. -/
theorem mem_readings_iff {r : Reading} :
    r ∈ m.readings ↔ (∃ d ∈ m.data, r = .data d) ∨ ∃ i ∈ m.inspections, r = .inspection i := by
  simp only [readings, List.mem_append, List.mem_map, eq_comm]

/-- What is made of all declarations is what is made of the data declarations, and then of the
inspections. -/
theorem flatMap_readings {α : Type} (m : Model) (f : Reading → List α) :
    m.readings.flatMap f =
      m.data.flatMap (fun d => f (.data d)) ++ m.inspections.flatMap fun i => f (.inspection i) := by
  rw [readings, List.flatMap_append, List.flatMap_map, List.flatMap_map]

end Mapping.Model

/-- The rows that the records of a model are made of, each with the declaration that reads it. -/
def origins (m : Model) (held : String → List Row) : List (Reading × Row) :=
  m.readings.flatMap fun r => (r.rows held).map fun row => (r, row)

/-! ## Sources that hold rows -/

/-- Whether reading from stores gives the rows that the objects hold, without those that the filter
excludes, and leaves the stores as they are. -/
def Holds [RecordSource ω] (stores : ω) (held : String → List Row) : Prop :=
  ∀ object filter, RecordSource.read object filter stores =
    (.ok ((held object).filter fun row => row.satisfies filter), stores)

/-- Rows in memory are given as they are held, and reading leaves them there. -/
theorem holds_memory (s : MemoryStore) : Holds s s.rows := fun _ _ => rfl

/-- A source in memory holds its rows whatever the target is. -/
theorem holds_endpoints (s : MemoryStore) (t : τ) :
    Holds (⟨s, t⟩ : Endpoints MemoryStore τ) s.rows := fun _ _ => rfl

section Yields

variable {stores : ω} {held : String → List Row}

/-- Reading an object yields those of its rows that satisfy the filter. -/
theorem yields_readRows [RecordSource ω] (holds : Holds stores held) (object : String)
    (filter : Filter) :
    ((Run.readRows object filter).mapError .storage :
      Run ω γ ConversionError (List Row)).Yields stores
        fun rows => (held object).filter (fun row => row.satisfies filter) = rows := by
  intro s s' rows same ended
  rw [Run.exec_mapError, Run.exec_readRows, same, holds object filter] at ended
  obtain ⟨result, rfl⟩ := Prod.mk.inj ended
  exact ⟨Except.ok.inj result, rfl⟩

variable [IdentSource γ]

/-- The ident that is found is one of the row. -/
theorem yields_identOf (row : Row) (identColumn : Option String) (object : String) :
    (identOf row identColumn object : Run ω γ ConversionError String).Yields stores
      (Identifies row identColumn) := by
  unfold identOf
  split
  case h_1 => exact Run.yields_nextIdent fun ident => nofun
  case h_2 column =>
    split
    case h_1 ident stands =>
      refine Run.yields_pure fun column' declared => ?_
      cases declared
      exact stands
    case h_2 => exact Run.yields_throw _

/-- The record that is read is made of the row by its data declaration. -/
theorem yields_readDataRow (m : Model) (d : DataDeclaration) (row : Row) :
    (readDataRow m d row : Run ω γ ConversionError Record).Yields stores
      (Reading.Makes m (.data d) row) := by
  refine (yields_identOf row _ _).bind fun ident identified => ?_
  exact (settles_readColumns m row _ _ _).yields.mono fun record read => .data identified read

/-- The record that is read is made of the row by its inspection. -/
theorem yields_inspectRow (m : Model) (i : Inspection) (row : Row) :
    (inspectRow m i row : Run ω γ ConversionError Record).Yields stores
      (Reading.Makes m (.inspection i) row) := by
  refine (yields_identOf row _ _).bind fun ident identified => ?_
  refine (Run.yields_resolved _).bind fun role roleRead => ?_
  refine (Run.yields_resolved _).bind fun chosen classRead => ?_
  exact (settles_readColumns m row _ _ _).yields.mono fun record read =>
    .inspection identified roleRead classRead read

variable [RecordSource ω]

/-- A data declaration makes one record of every row that its filter lets through, in their order.
-/
theorem yields_readData (holds : Holds stores held) (m : Model) (d : DataDeclaration) :
    (readData m d : Run ω γ ConversionError (List Record)).Yields stores
      (List.Forall₂ (Reading.Makes m (.data d)) ((Reading.data d).rows held)) := by
  refine (yields_readRows holds d.object d.filter).bind fun rows read => ?_
  subst read
  exact Run.yields_mapM (yields_readDataRow m d) _

/-- An inspection makes one record of every row of its object, in their order. -/
theorem yields_inspect (holds : Holds stores held) (m : Model) (i : Inspection) :
    (inspect m i : Run ω γ ConversionError (List Record)).Yields stores
      (List.Forall₂ (Reading.Makes m (.inspection i)) ((Reading.inspection i).rows held)) := by
  refine (yields_readRows holds i.object .empty).bind fun rows read => ?_
  have all : (held i.object).filter (fun row => row.satisfies .empty) = held i.object :=
    List.filter_eq_self.mpr fun row _ => rfl
  rw [all] at read
  subst read
  exact Run.yields_mapM (yields_inspectRow m i) _

/-- The records that declarations of one kind make are made of the rows that they read. -/
theorem forall₂_makes_flatten {m : Model} {δ : Type} {reading : δ → Reading} {ds : List δ}
    {records : List (List Record)}
    (made : List.Forall₂ (fun d rs =>
      List.Forall₂ (Reading.Makes m (reading d)) ((reading d).rows held) rs) ds records) :
    List.Forall₂ (fun (o : Reading × Row) record => o.1.Makes m o.2 record)
      ((ds.map reading).flatMap fun r => (r.rows held).map fun row => (r, row))
      records.flatten := by
  induction made with
  | nil => exact .nil
  | cons first _ ih =>
      rw [List.map_cons, List.flatMap_cons, List.flatten_cons]
      refine List.rel_append ?_ ih
      rw [List.forall₂_map_left_iff]
      exact first

/-- **Every record is made of one row.** Reading the records of a model gives one record for every
row that its declarations read, in the order of the rows. -/
theorem yields_readRecords (holds : Holds stores held) (m : Model) :
    (readRecords m : Run ω γ ConversionError (List Record)).Yields stores
      (List.Forall₂ (fun o record => o.1.Makes m o.2 record) (origins m held)) := by
  refine (Run.yields_mapM (yields_readData holds m) m.data).bind fun ofData data => ?_
  refine (Run.yields_mapM (yields_inspect holds m) m.inspections).bind fun ofInspections
    inspections => ?_
  apply Run.yields_pure
  rw [origins, Model.readings, List.flatMap_append]
  exact List.rel_append (forall₂_makes_flatten data) (forall₂_makes_flatten inspections)

end Yields

end Crossmap
