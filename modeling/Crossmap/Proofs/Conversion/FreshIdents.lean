import Crossmap.Proofs.Conversion.Answers
import Crossmap.Proofs.Conversion.Delivery
import Crossmap.Proofs.Conversion.RunPairs

/-! # What depends on the source of idents

Two sources of idents that have nothing to do with each other lead a conversion to the same error,
or to records and rows that differ in idents only. The records of two such conversions are twins:
they are made of one row by one declaration, and equal but for an ident that was given out
(`Twin.Agree`). The rows of twins agree in every cell that does not hold an ident, and each of the
others holds that of its own record (`AgreeApart`, `convert_idents_apart`).
-/

namespace Crossmap

open Mapping

variable {σ γ γ' : Type}

/-! ## Twins -/

/-- A row, the declaration that reads it, and the records that two conversions make of it. -/
structure Twin where
  reading : Reading
  row : Row
  first : Record
  second : Record

/-- Twins have the ident of their row if their declaration has a column for it. If it has none, they
agree in all but the ident. -/
structure Twin.Agree (m : Model) (t : Twin) : Prop where
  first : t.reading.Makes m t.row t.first
  second : t.reading.Makes m t.row t.second
  apartFromIdent : t.second = { t.first with ident := t.second.ident }
  ident : t.reading.identColumn ≠ none → t.first.ident = t.second.ident

section Read

variable {m : Model} {row : Row}

/-- The ident of a record is that of its row. -/
theorem Reading.Makes.identifies {r : Reading} {record : Record} (made : r.Makes m row record) :
    Identifies row r.identColumn record.ident := by
  cases made with
  | data identified read =>
      obtain ⟨values, rfl⟩ := exists_values_of_columnsRead read
      exact identified
  | inspection identified _ _ read =>
      obtain ⟨values, rfl⟩ := exists_values_of_columnsRead read
      exact identified

/-- Records of two conversions that are made of the same rows are twins. -/
theorem exists_twins {origins : List (Reading × Row)} {records records' : List Record}
    (made : List.Forall₂ (fun o record => o.1.Makes m o.2 record) origins records)
    (made' : List.Forall₂ (fun o record => o.1.Makes m o.2 record) origins records')
    (upTo : List.Forall₂ (Record.IsUpTo fun _ _ => True) records records') :
    ∃ twins : List Twin, (twins.map fun t => (t.reading, t.row)) = origins ∧
      twins.map Twin.first = records ∧ twins.map Twin.second = records' ∧
        ∀ t ∈ twins, t.Agree m := by
  induction made generalizing records' with
  | nil =>
      cases upTo
      exact ⟨[], rfl, rfl, rfl, by simp⟩
  | @cons o record origins records first _ ih =>
      cases upTo with
      | @cons _ record' _ _ alike others =>
          cases made' with
          | cons second further =>
              obtain ⟨twins, ofOrigins, firsts, seconds, agree⟩ := ih further others
              have ident : o.1.identColumn ≠ none → record.ident = record'.ident := by
                intro declared
                obtain ⟨column, declared⟩ := Option.ne_none_iff_exists'.mp declared
                have stands := first.identifies column declared
                exact Option.some.inj (stands.symm.trans (second.identifies column declared))
              have twin : Twin.Agree m ⟨o.1, o.2, record, record'⟩ := by
                obtain ⟨ident', -, rfl⟩ := alike
                exact ⟨first, second, rfl, ident⟩
              refine ⟨⟨o.1, o.2, record, record'⟩ :: twins, ?_, ?_, ?_, ?_⟩
              · rw [List.map_cons, ofOrigins]
              · rw [List.map_cons, firsts]
              · rw [List.map_cons, seconds]
              · intro t member
                rcases List.mem_cons.mp member with rfl | member
                · exact twin
                · exact agree t member

end Read

/-! ## Rows of twins -/

/-- The path that is written to each column of a declaration, the last one where there are several.
What is written to the ident column is what the marker of the ident addresses. -/
def Mapping.DataDeclaration.pathsWritten (d : DataDeclaration) : Dict String String :=
  d.columns.foldl (fun paths c => paths.insert c.sourceColumn c.targetPath)
    (match d.identColumn with
    | some column => Dict.empty.insert column identMarker
    | none => .empty)

/-- Rows that agree in all cells but those to which an ident is written. Of these each holds that of
its own record. -/
structure AgreeApart (paths : Dict String String) (record record' : Record) (row row' : Row) :
    Prop where
  keys : row.keys = row'.keys
  ident : ∀ column, paths.get? column = some identMarker →
    row.get? column = some (.string record.ident) ∧ row'.get? column = some (.string record'.ident)
  others : ∀ column, paths.get? column ≠ some identMarker → row.get? column = row'.get? column

section Write

variable {m : Model} {record record' : Record} {paths : Dict String String} {row row' : Row}

/-- Rows agree when one more cell is put into each: the ident of its own record, or the same cell.
-/
theorem AgreeApart.insert (agree : AgreeApart paths record record' row row') (column : String)
    {path : String} {cell cell' : Cell}
    (ident : path = identMarker → cell = .string record.ident ∧ cell' = .string record'.ident)
    (others : path ≠ identMarker → cell = cell') :
    AgreeApart (paths.insert column path) record record' (row.insert column cell)
      (row'.insert column cell') where
  keys := by rw [Dict.keys_insert, Dict.keys_insert, agree.keys]
  ident := by
    intro name written
    rw [Dict.get?_insert] at written
    rw [Dict.get?_insert, Dict.get?_insert]
    by_cases same : name = column
    · rw [if_pos same] at written
      rw [if_pos same, if_pos same]
      obtain ⟨rfl, rfl⟩ := ident (Option.some.inj written)
      exact ⟨rfl, rfl⟩
    · rw [if_neg same] at written
      rw [if_neg same, if_neg same]
      exact agree.ident name written
  others := by
    intro name unwritten
    rw [Dict.get?_insert] at unwritten
    rw [Dict.get?_insert, Dict.get?_insert]
    by_cases same : name = column
    · rw [if_pos same] at unwritten
      rw [if_pos same, if_pos same, others fun bound => unwritten (congrArg some bound)]
    · rw [if_neg same] at unwritten
      rw [if_neg same, if_neg same]
      exact agree.others name unwritten

@[simp] theorem Record.field?_identMarker (r : Record) : r.field? identMarker = some r.ident := rfl

/-- What a path addresses besides the ident is the same in twins. -/
theorem Record.field?_of_ne_identMarker (r : Record) (ident : String) {path : String}
    (apart : path ≠ identMarker) : { r with ident := ident }.field? path = r.field? path := by
  simp only [Record.field?, if_neg apart]

/-- Whether idents are written as they are, without value maps. -/
def PlainIdents (columns : List Column) : Prop :=
  ∀ c ∈ columns, c.targetPath = identMarker → c.valueMap = none

/-- A column is written for twins with the same error, or with cells that agree. -/
theorem endAlike_columnWritten {c : Column} (plain : c.targetPath = identMarker → c.valueMap = none)
    (twins : record' = { record with ident := record'.ident })
    (agree : AgreeApart paths record record' row row') :
    EndAlike (AgreeApart (paths.insert c.sourceColumn c.targetPath) record record')
      (columnWritten m record row c) (columnWritten m record' row' c) := by
  by_cases bound : c.targetPath = identMarker
  · have written (r : Record) (w : Row) :
        columnWritten m r w c = .ok (w.insert c.sourceColumn (.string r.ident)) := by
      apply columnWritten_eq_ok
      rw [bound, plain bound, Record.field?_identMarker]
      rfl
    rw [written, written]
    exact .ended (agree.insert c.sourceColumn (fun _ => ⟨rfl, rfl⟩) (absurd bound))
  · have field : record'.field? c.targetPath = record.field? c.targetPath := by
      rw [twins]
      exact Record.field?_of_ne_identMarker record _ bound
    rw [columnWritten, columnWritten, field]
    apply EndAlike.bind (endAlike_eq_iff.mpr rfl)
    rintro cell _ rfl
    exact .ended (agree.insert c.sourceColumn (fun same => absurd same bound) fun _ => rfl)

/-- Columns are written for twins with the same error, or with rows that agree. -/
theorem endAlike_foldlM_columnWritten {columns : List Column} (plain : PlainIdents columns)
    (twins : record' = { record with ident := record'.ident })
    (agree : AgreeApart paths record record' row row') :
    EndAlike
      (AgreeApart (columns.foldl (fun paths c => paths.insert c.sourceColumn c.targetPath) paths)
        record record')
      (columns.foldlM (columnWritten m record) row)
      (columns.foldlM (columnWritten m record') row') := by
  induction columns generalizing paths row row' with
  | nil => exact .ended agree
  | cons c rest ih =>
      rw [List.foldlM_cons, List.foldlM_cons]
      apply (endAlike_columnWritten (plain c List.mem_cons_self) twins agree).bind
      intro w w' further
      exact ih (fun c member => plain c (List.mem_cons_of_mem _ member)) further

/-- The rows of twins cannot be made for the same reason, or agree apart from their idents. -/
theorem endAlike_writtenRow {d : DataDeclaration} (plain : PlainIdents d.columns)
    (twins : record' = { record with ident := record'.ident }) :
    EndAlike (AgreeApart d.pathsWritten record record') (writtenRow m d record)
      (writtenRow m d record') := by
  have nothing : AgreeApart .empty record record' .empty .empty := by
    refine ⟨rfl, ?_, fun column _ => rfl⟩
    intro column written
    cases written
  apply endAlike_foldlM_columnWritten plain twins
  rw [identRow, identRow]
  cases d.identColumn with
  | none => exact nothing
  | some column => exact nothing.insert column (fun _ => ⟨rfl, rfl⟩) (absurd rfl)

end Write

/-! ## Batches of twins -/

/-- Batches of two conversions, row by row. -/
structure TwinBatch where
  object : String
  rows : List (Row × Row)

namespace TwinBatch

/-- The batch of the first conversion. -/
def first (b : TwinBatch) : Batch := ⟨b.object, b.rows.map Prod.fst⟩

/-- The batch of the second conversion. -/
def second (b : TwinBatch) : Batch := ⟨b.object, b.rows.map Prod.snd⟩

/-- Batches of a declaration hold the rows of the twins of its class. -/
structure Agree (twins : List Twin) (d : DataDeclaration) (b : TwinBatch) : Prop where
  object : b.object = d.object
  rows : List.Forall₂ (fun t rows => AgreeApart d.pathsWritten t.first t.second rows.1 rows.2)
    (twins.filter fun t => t.first.className = d.className) b.rows

end TwinBatch

/-- Steps that end alike give results pair by pair. -/
theorem endAlike_mapM {ε α β β' : Type} {R : α → β → β' → Prop} {f : α → Except ε β}
    {f' : α → Except ε β'} {l : List α} (steps : ∀ a ∈ l, EndAlike (R a) (f a) (f' a)) :
    EndAlike (fun bs bs' => ∃ pairs : List (β × β'), pairs.map Prod.fst = bs ∧
        pairs.map Prod.snd = bs' ∧ List.Forall₂ (fun a p => R a p.1 p.2) l pairs)
      (l.mapM f) (l.mapM f') := by
  induction l with
  | nil => exact .ended ⟨[], rfl, rfl, .nil⟩
  | cons a rest ih =>
      rw [List.mapM_cons, List.mapM_cons]
      apply (steps a List.mem_cons_self).bind
      intro b b' first
      apply (ih fun a member => steps a (List.mem_cons_of_mem _ member)).bind
      rintro _ _ ⟨pairs, rfl, rfl, others⟩
      exact .ended ⟨(b, b') :: pairs, rfl, rfl, .cons first others⟩

section Batches

variable {m : Model} {twins : List Twin}

/-- The records of a declaration in the first conversion are those of the twins of its class. -/
theorem recordsFor_first (d : DataDeclaration) (twins : List Twin) :
    recordsFor d (twins.map Twin.first) =
      (twins.filter fun t => t.first.className = d.className).map Twin.first :=
  List.filter_map

/-- The records of a declaration in the second conversion are those of the same twins. -/
theorem recordsFor_second {twins : List Twin}
    (agree : ∀ t ∈ twins, t.second = { t.first with ident := t.second.ident })
    (d : DataDeclaration) :
    recordsFor d (twins.map Twin.second) =
      (twins.filter fun t => t.first.className = d.className).map Twin.second := by
  rw [recordsFor, List.filter_map]
  congr 1
  apply List.filter_congr
  intro t member
  have className : t.second.className = t.first.className := by rw [agree t member]
  simp only [Function.comp_apply, className]

/-- The rows of a declaration cannot be made for the same reason, or make batches that agree. -/
theorem endAlike_batch (agree : ∀ t ∈ twins, t.second = { t.first with ident := t.second.ident })
    {d : DataDeclaration} (plain : PlainIdents d.columns) :
    EndAlike (fun rows rows' => ∃ b : TwinBatch, b.Agree twins d ∧ b.first = ⟨d.object, rows⟩ ∧
        b.second = ⟨d.object, rows'⟩ ∧ rows.length = rows'.length)
      ((recordsFor d (twins.map Twin.first)).mapM (writtenRow m d))
      ((recordsFor d (twins.map Twin.second)).mapM (writtenRow m d)) := by
  rw [recordsFor_first, recordsFor_second agree, List.mapM_map, List.mapM_map]
  have rows := endAlike_mapM (l := twins.filter fun t => t.first.className = d.className)
    fun t member => endAlike_writtenRow (m := m) plain (agree t (List.mem_of_mem_filter member))
  apply rows.mono
  rintro _ _ ⟨pairs, rfl, rfl, related⟩
  refine ⟨⟨d.object, pairs⟩, ⟨rfl, related⟩, rfl, rfl, ?_⟩
  rw [List.length_map, List.length_map]

/-- A target that keeps rows in memory accepts the rows of a declaration. -/
theorem exec_writeData_memory {records : List Record} {d : DataDeclaration} {rows : List Row}
    (made : (recordsFor d records).mapM (writtenRow m d) = .ok rows) (counts : Dict String Nat)
    (s : Session (Endpoints σ MemoryStore) γ) :
    ∃ sink, (writeData m records counts d).exec s =
      (.ok (counts.update d.object fun n => n.getD 0 + rows.length),
        ⟨{ s.stores with target := s.stores.target.append d.object rows }, s.idents, sink⟩) :=
  exec_writeData_of_ok made counts s

/-- Writing the records of twins hands over batches that agree, and ends alike. -/
theorem exec_foldlM_writeData_twins
    (agree : ∀ t ∈ twins, t.second = { t.first with ident := t.second.ident })
    {ds : List DataDeclaration} (plain : ∀ d ∈ ds, PlainIdents d.columns) (counts : Dict String Nat)
    (s : Session (Endpoints σ MemoryStore) γ) (s' : Session (Endpoints σ MemoryStore) γ') :
    ∃ batches : List TwinBatch,
      Handed s.stores (batches.map TwinBatch.first) none
          ((ds.foldlM (writeData m (twins.map Twin.first)) counts).exec s).2.stores ∧
        Handed s'.stores (batches.map TwinBatch.second) none
          ((ds.foldlM (writeData m (twins.map Twin.second)) counts).exec s').2.stores ∧
        List.Forall₂ (TwinBatch.Agree twins) (ds.take batches.length) batches ∧
        EndAlike (fun c c' => batches.length = ds.length ∧ c = c')
          ((ds.foldlM (writeData m (twins.map Twin.first)) counts).exec s).1
          ((ds.foldlM (writeData m (twins.map Twin.second)) counts).exec s').1 := by
  induction ds generalizing counts s s' with
  | nil => exact ⟨[], .nothing _, .nothing _, .nil, .ended ⟨rfl, rfl⟩⟩
  | cons d rest ih =>
      rw [List.foldlM_cons, List.foldlM_cons]
      have rows := endAlike_batch (m := m) agree (plain d List.mem_cons_self)
      -- Rows do not depend on the session, so both batches are settled before either run is.
      generalize made : (recordsFor d (twins.map Twin.first)).mapM (writtenRow m d) = x at rows
      generalize made' : (recordsFor d (twins.map Twin.second)).mapM (writtenRow m d) = x' at rows
      cases rows with
      | failed e =>
          obtain ⟨sink, ended⟩ := exec_writeData_of_error made counts s
          obtain ⟨sink', ended'⟩ := exec_writeData_of_error made' counts s'
          rw [Run.exec_bind_error ended, Run.exec_bind_error ended']
          exact ⟨[], .nothing _, .nothing _, .nil, .failed e⟩
      | @ended rows rows' batch =>
          obtain ⟨b, agreed, first, second, lengths⟩ := batch
          obtain ⟨sink, ended⟩ := exec_writeData_memory made counts s
          obtain ⟨sink', ended'⟩ := exec_writeData_memory made' counts s'
          rw [Run.exec_bind_ok ended, Run.exec_bind_ok ended', lengths]
          obtain ⟨batches, handed, handed', further, alike⟩ :=
            ih (fun d member => plain d (List.mem_cons_of_mem _ member))
              (counts.update d.object fun n => n.getD 0 + rows'.length)
              ⟨{ s.stores with target := s.stores.target.append d.object rows }, s.idents, sink⟩
              ⟨{ s'.stores with target := s'.stores.target.append d.object rows' }, s'.idents,
                sink'⟩
          refine ⟨b :: batches, ?_, ?_, .cons agreed further, ?_⟩
          · rw [List.map_cons, first]
            exact .accepted rfl handed
          · rw [List.map_cons, second]
            exact .accepted rfl handed'
          · apply alike.mono
            rintro c _ ⟨all, rfl⟩
            exact ⟨congrArg Nat.succ all, rfl⟩

end Batches

/-! ## Conversions -/

variable [RecordSource σ] [IdentSource γ] [IdentSource γ']

/-- Sessions with the same stores read alike, whatever idents they give out. -/
theorem readAlike_stores :
    ReadAlike (fun (s : Session (Endpoints σ MemoryStore) γ)
      (s' : Session (Endpoints σ MemoryStore) γ') => s.stores = s'.stores) fun _ _ => True where
  rows := by
    intro object filter s s' same
    rw [Run.exec_readRows, Run.exec_readRows, same]
    exact ⟨endAlike_eq_iff.mpr rfl, rfl⟩
  fresh := fun _ _ same => ⟨.ended trivial, same⟩
  same := fun _ => trivial
  event := fun _ _ _ _ _ same => ⟨.ended rfl, same⟩

/-- The records that are read with two sources of idents are twins, made of the same rows. -/
theorem endAlike_readRecords (source : Model) (s : Session (Endpoints σ MemoryStore) γ)
    (s' : Session (Endpoints σ MemoryStore) γ') (same : s.stores = s'.stores) :
    EndAlike (fun records records' => ∃ twins : List Twin, (∀ t ∈ twins, t.Agree source) ∧
        (∃ w, Gives s.stores source.readings (twins.map fun t => (t.reading, t.row)) w) ∧
        records = twins.map Twin.first ∧ records' = twins.map Twin.second)
      ((readRecords source).exec s).1 ((readRecords source).exec s').1 := by
  obtain ⟨alike, -⟩ := corresponds_readRecords readAlike_stores source s s' same
  rcases read : (readRecords source).exec s with ⟨x, mid⟩
  rcases read' : (readRecords source).exec s' with ⟨x', mid'⟩
  rw [read, read'] at alike
  cases alike with
  | failed e => exact .failed e
  | @ended records records' upTo =>
      obtain ⟨origins, gives, made⟩ := gives_of_readRecords read
      obtain ⟨origins', gives', made'⟩ := gives_of_readRecords read'
      rw [← same] at gives'
      obtain rfl : origins = origins' := gives.unique gives'
      obtain ⟨twins, rfl, rfl, rfl, agree⟩ := exists_twins made made' upTo
      exact .ended ⟨twins, agree, ⟨_, gives⟩, rfl, rfl⟩

/-- **Idents do not matter but for themselves.** Let idents be written without value maps, and let
the target keep its rows in memory. Two conversions of the same stores, with two sources of idents,
fail with the same error or both end well. Their records are twins, made of the rows that the source
gives; the batches that they hand over agree row by row, those that were handed over before a
failure as well; and they count the same rows. -/
theorem convert_idents_apart (source : Model) {target : Model}
    (plain : ∀ d ∈ target.data, PlainIdents d.columns) (tracing : Bool)
    (stores : Endpoints σ MemoryStore) (idents : γ) (idents' : γ') (sink sink' : TraceSink) :
    let run := (convert source target tracing).exec ⟨stores, idents, sink⟩
    let run' := (convert source target tracing).exec ⟨stores, idents', sink'⟩
    ∃ (twins : List Twin) (batches : List TwinBatch),
      (∀ t ∈ twins, t.Agree source) ∧
      Handed stores.target (batches.map TwinBatch.first) none run.2.stores.target ∧
      Handed stores.target (batches.map TwinBatch.second) none run'.2.stores.target ∧
      List.Forall₂ (TwinBatch.Agree twins) (target.data.take batches.length) batches ∧
      EndAlike (fun outcome outcome' =>
          (∃ w, Gives stores source.readings (twins.map fun t => (t.reading, t.row)) w) ∧
          outcome.records = twins.map Twin.first ∧ outcome'.records = twins.map Twin.second ∧
          batches.length = target.data.length ∧ outcome.rowsWritten = outcome'.rowsWritten)
        run.1 run'.1 := by
  intro run run'
  have kept : (readRecords source : Run (Endpoints σ MemoryStore) γ ConversionError _).Keeps
      Endpoints.target := keeps_readRecords (fun _ _ _ => rfl) source
  have kept' : (readRecords source : Run (Endpoints σ MemoryStore) γ' ConversionError _).Keeps
      Endpoints.target := keeps_readRecords (fun _ _ _ => rfl) source
  have untouched := kept ⟨stores, idents, .start tracing⟩
  have untouched' := kept' ⟨stores, idents', .start tracing⟩
  -- Both runs find the same rows, and what can fail in a row does not depend on idents.
  have alike := endAlike_readRecords source ⟨stores, idents, .start tracing⟩
    ⟨stores, idents', .start tracing⟩ rfl
  rcases read : (readRecords source).exec ⟨stores, idents, .start tracing⟩ with ⟨x, mid⟩
  rcases read' : (readRecords source).exec ⟨stores, idents', .start tracing⟩ with ⟨x', mid'⟩
  rw [read] at untouched alike
  rw [read'] at untouched' alike
  cases alike with
  | failed e =>
      have ended : run = (.error e, mid) := exec_convert_of_error read
      have ended' : run' = (.error e, mid') := exec_convert_of_error read'
      rw [ended, ended', untouched, untouched']
      exact ⟨[], [], by simp, .nothing _, .nothing _, .nil, .failed e⟩
  | @ended _ _ both =>
      obtain ⟨twins, agree, gives, rfl, rfl⟩ := both
      have apart : ∀ t ∈ twins, t.second = { t.first with ident := t.second.ident } :=
        fun t member => (agree t member).apartFromIdent
      -- No ident is drawn from here on: those that were drawn are texts in the records.
      obtain ⟨batches, handed, handed', complete, ends⟩ :=
        exec_foldlM_writeData_twins apart plain .empty mid mid'
      rcases written : (target.data.foldlM (writeData target (twins.map Twin.first)) .empty).exec
        mid with ⟨y, after⟩
      rcases written' : (target.data.foldlM (writeData target (twins.map Twin.second)) .empty).exec
        mid' with ⟨y', after'⟩
      rw [written] at handed ends
      rw [written'] at handed' ends
      have ended : run =
          (y.map fun counts => ⟨twins.map Twin.first, after.sink.events, counts⟩, after) :=
        exec_convert_of_ok read written
      have ended' : run' =
          (y'.map fun counts => ⟨twins.map Twin.second, after'.sink.events, counts⟩, after') :=
        exec_convert_of_ok read' written'
      have handed := handed.target
      have handed' := handed'.target
      rw [untouched] at handed
      rw [untouched'] at handed'
      rw [ended, ended']
      refine ⟨twins, batches, agree, handed, handed', complete, ?_⟩
      cases ends with
      | failed e => exact .failed e
      | ended counted => exact .ended ⟨gives, rfl, rfl, counted.1, counted.2⟩

/-- Leaves without idents of their own. -/
def leafSource : Model :=
  { Model.bare "Leaves" with data := [DataDeclaration.bare "P" "LEAVES" "Leaf"] }

/-- Leaves whose idents are written twice. -/
def leafTarget : Model :=
  { Model.bare "Trees" with
    data := [{ DataDeclaration.bare "Q" "TREES" "Leaf" with
      identColumn := some "ID"
      columns := [⟨"KEY", identMarker, none⟩] }] }

def leafStores : Endpoints MemoryStore MemoryStore :=
  ⟨MemoryStore.empty.insertRows "LEAVES" [.ofList [("COLOR", .string "red")]], .empty⟩

/-- Leaves whose idents are numbered under two stems. -/
theorem convert_idents_apart_leaves :
    let run := (convert leafSource leafTarget false).exec
      ⟨leafStores, NumberedIdents.fresh "a", .discard⟩
    let run' := (convert leafSource leafTarget false).exec
      ⟨leafStores, NumberedIdents.fresh "b", .discard⟩
    ∃ outcome outcome', run.1 = .ok outcome ∧ run'.1 = .ok outcome' ∧
      outcome.records = [.bare "Leaf" "a1"] ∧ outcome'.records = [.bare "Leaf" "b1"] ∧
      outcome.rowsWritten = outcome'.rowsWritten := by
  intro run run'
  have plain : ∀ d ∈ leafTarget.data, PlainIdents d.columns := by
    simp [leafTarget, PlainIdents]
  obtain ⟨twins, batches, -, -, -, -, alike⟩ :=
    convert_idents_apart leafSource plain false leafStores
    (NumberedIdents.fresh "a") (NumberedIdents.fresh "b") .discard .discard
  have first : run.1.map Outcome.records = .ok [.bare "Leaf" "a1"] := by decide +kernel
  have second : run'.1.map Outcome.records = .ok [.bare "Leaf" "b1"] := by decide +kernel
  change EndAlike _ run.1 run'.1 at alike
  generalize run.1 = x at first alike
  generalize run'.1 = x' at second alike
  cases alike with
  | failed e => cases first
  | @ended outcome outcome' related =>
      exact ⟨outcome, outcome', rfl, rfl, Except.ok.inj first, Except.ok.inj second,
        related.2.2.2.2⟩

end Crossmap
