import Crossmap.Proofs.Conversion.MemoryRuns
import Crossmap.Proofs.Conversion.Reading

/-! # What a target is handed

Writing records hands the target one batch after another, each of them all the rows of one data
declaration. It ends when every declaration has had its batch, when a value cannot be resolved,
before any row of its declaration is handed over, or when the target refuses a batch
(`exec_writeRecords`). A conversion whose records cannot be read hands nothing over, and any other
one what writing its records does (`convert_hands_over`).
-/

namespace Crossmap

open Mapping

variable {ω σ τ γ : Type}

/-! ## Batches -/

/-- Rows handed to a target under the name of an object. -/
structure Batch where
  object : String
  rows : List Row

/-- The rows that batches hold for an object. -/
def rowsUnder (object : String) (batches : List Batch) : List Row :=
  (batches.filter fun b => b.object = object).flatMap Batch.rows

/-- What a target comes to by being handed batches one after another. The first batch that it
refuses is the last one, and the error of that refusal is the fault. -/
inductive Handed [RecordTarget ω] : ω → List Batch → Option StorageError → ω → Prop
  | nothing (w : ω) : Handed w [] none w
  | refused {w w' : ω} {b : Batch} {e : StorageError}
      (refusal : RecordTarget.write b.object b.rows w = (.error e, w')) :
      Handed w [b] (some e) w'
  | accepted {w w' w'' : ω} {b : Batch} {batches : List Batch} {fault : Option StorageError}
      (acceptance : RecordTarget.write b.object b.rows w = (.ok (), w'))
      (further : Handed w' batches fault w'') : Handed w (b :: batches) fault w''

/-- The batch of a declaration when it is complete: a row for every record of the class of the
declaration, in the order of the records. -/
structure CompleteBatch (m : Model) (records : List Record) (d : DataDeclaration) (b : Batch) :
    Prop where
  object : b.object = d.object
  rows : List.Forall₂ (fun record row => writtenRow m d record = .ok row)
    (records.filter fun r => r.className = d.className) b.rows

/-- How a run ends after batches of declarations were handed over: well if every declaration had its
batch, with an error of resolution if the next one has a record without a row, and otherwise with
the fault of the last batch. -/
def EndsAfter {α : Type} (m : Model) (records : List Record) (ds : List DataDeclaration)
    (batches : List Batch) (fault : Option StorageError) (well : α → Prop) :
    Except ConversionError α → Prop
  | .ok a => fault = none ∧ batches.length = ds.length ∧ well a
  | .error (.resolution e) =>
    fault = none ∧ ∃ d ∈ ds[batches.length]?, ∃ record ∈ records,
      record.className = d.className ∧ writtenRow m d record = .error (.resolution e)
  | .error (.storage e) => fault = some e

/-- Whether there is one count for every object of the declarations: that of its rows in the
batches. -/
structure CountsRows (ds : List DataDeclaration) (batches : List Batch) (counts : Dict String Nat) :
    Prop where
  keys : counts.keys = (ds.map DataDeclaration.object).eraseDups
  count : ∀ d ∈ ds, counts.get? d.object = some (rowsUnder d.object batches).length

/-- **Batches are rectangular.** All rows of a complete batch have the columns of its declaration. -/
theorem CompleteBatch.keys {m : Model} {records : List Record} {d : DataDeclaration} {b : Batch}
    (complete : CompleteBatch m records d b) {row : Row} (member : row ∈ b.rows) :
    row.keys = d.columnNames.eraseDups := by
  obtain ⟨record, -, written⟩ := exists_mem_of_forall₂ complete.rows member
  exact keys_writtenRow written

/-! ## Counting rows -/

/-- The counts of rows with those of one more batch. -/
def countBatch (counts : Dict String Nat) (b : Batch) : Dict String Nat :=
  counts.update b.object fun n => n.getD 0 + b.rows.length

/-- A further batch adds its rows to those of its own object only. -/
theorem rowsUnder_cons (object : String) (b : Batch) (batches : List Batch) :
    rowsUnder object (b :: batches) =
      (if b.object = object then b.rows else []) ++ rowsUnder object batches := by
  by_cases same : b.object = object
  · rw [if_pos same, rowsUnder, List.filter_cons_of_pos (by simpa using same), List.flatMap_cons]
    rfl
  · rw [if_neg same, rowsUnder, List.filter_cons_of_neg (by simpa using same)]
    rfl

/-- Counting batches adds up the rows of each object. -/
theorem getD_foldl_countBatch (batches : List Batch) (counts : Dict String Nat) (object : String) :
    ((batches.foldl countBatch counts).get? object).getD 0 =
      (counts.get? object).getD 0 + (rowsUnder object batches).length := by
  induction batches generalizing counts with
  | nil => rfl
  | cons b rest ih =>
      rw [List.foldl_cons, ih, countBatch, Dict.update, Dict.get?_insert, rowsUnder_cons,
        List.length_append]
      by_cases same : object = b.object
      · rw [if_pos same, if_pos same.symm, Option.getD_some, same]
        omega
      · rw [if_neg same, if_neg (Ne.symm same), List.length_nil]
        omega

/-- The objects that are counted are those of the batches, each once, in the order of their first
batch. -/
theorem keys_foldl_countBatch (batches : List Batch) :
    (batches.foldl countBatch .empty).keys = (batches.map Batch.object).eraseDups :=
  Dict.keys_foldl_update Batch.object (fun b n => n.getD 0 + b.rows.length) batches

/-- Every object that was handed a batch has one count: that of all its rows. -/
theorem get?_foldl_countBatch {batches : List Batch} {object : String}
    (member : object ∈ batches.map Batch.object) :
    (batches.foldl countBatch .empty).get? object =
      some (rowsUnder object batches).length := by
  have isKey : object ∈ (batches.foldl countBatch .empty).keys := by
    rw [keys_foldl_countBatch]
    exact List.mem_eraseDups.mpr member
  have count := getD_foldl_countBatch batches .empty object
  rw [Dict.get?_empty, Option.getD_none, Nat.zero_add] at count
  cases found : (batches.foldl countBatch .empty).get? object with
  | none => exact (Dict.get?_eq_none_iff.mp found isKey).elim
  | some n =>
      rw [found, Option.getD_some] at count
      rw [count]

/-! ## Writing -/

/-- The only failure of a row is a value that cannot be resolved. -/
theorem exists_of_writtenRow_eq_error {m : Model} {d : DataDeclaration} {record : Record}
    {e : ConversionError} (failed : writtenRow m d record = .error e) :
    ∃ r, e = .resolution r := by
  obtain ⟨c, -, row, step⟩ := exists_of_foldlM_eq_error failed
  rw [columnWritten] at step
  rcases bind_eq_error_iff.mp step with resolved | ⟨cell, -, ended⟩
  · cases value : m.backward c.valueMap (record.field? c.targetPath) with
    | ok cell =>
        rw [value] at resolved
        cases resolved
    | error r =>
        rw [value] at resolved
        exact ⟨r, (Except.error.inj resolved).symm⟩
  · cases ended

section Write

variable [RecordTarget ω] {m : Model} {records : List Record} {d : DataDeclaration}

/-- A declaration with a row that cannot be made hands nothing over. -/
theorem exec_writeData_of_error {e : ConversionError}
    (failed : (recordsFor d records).mapM (writtenRow m d) = .error e) (counts : Dict String Nat)
    (s : Session ω γ) :
    ∃ sink, (writeData m records counts d).exec s = (.error e, { s with sink := sink }) := by
  have rows := Run.settles_mapM (ω := ω) (γ := γ) (settles_writeRow m d) (recordsFor d records)
  rw [failed] at rows
  obtain ⟨sink, ended⟩ := rows s
  exact ⟨sink, by rw [writeData, Run.exec_bind_error ended]⟩

/-- A run over more declarations ends as the run over the further ones, after one more batch. -/
theorem EndsAfter.cons {α : Type} {rest : List DataDeclaration} {b : Batch} {batches : List Batch}
    {fault : Option StorageError} {well : α → Prop} {result : Except ConversionError α}
    (ends : EndsAfter m records rest batches fault well result) :
    EndsAfter m records (d :: rest) (b :: batches) fault well result := by
  rcases result with (e | e) | a
  · exact ends
  · exact ends
  · obtain ⟨unfaulted, all, of⟩ := ends
    exact ⟨unfaulted, congrArg Nat.succ all, of⟩

/-- Writing through declarations hands over the batches of the first ones, and ends as the last of
them or the one after them says. -/
theorem exec_foldlM_writeData_cases (m : Model) (records : List Record)
    (ds : List DataDeclaration) (counts : Dict String Nat) (s : Session ω γ) :
    ∃ (batches : List Batch) (fault : Option StorageError) (w : ω) (sink : TraceSink)
      (result : Except ConversionError (Dict String Nat)),
      (ds.foldlM (writeData m records) counts).exec s = (result, ⟨w, s.idents, sink⟩) ∧
        Handed s.stores batches fault w ∧
        List.Forall₂ (CompleteBatch m records) (ds.take batches.length) batches ∧
        EndsAfter m records ds batches fault (· = batches.foldl countBatch counts) result := by
  induction ds generalizing counts s with
  | nil => exact ⟨[], none, s.stores, s.sink, .ok counts, rfl, .nothing _, .nil, rfl, rfl, rfl⟩
  | cons d rest ih =>
      rw [List.foldlM_cons]
      cases made : (recordsFor d records).mapM (writtenRow m d) with
      | error e =>
          obtain ⟨sink, ended⟩ := exec_writeData_of_error made counts s
          obtain ⟨record, member, failed⟩ := exists_of_mapM_eq_error made
          obtain ⟨r, rfl⟩ := exists_of_writtenRow_eq_error failed
          obtain ⟨listed, ofClass⟩ := mem_recordsFor_iff.mp member
          have next : EndsAfter m records (d :: rest) [] none (· = counts)
              (.error (.resolution r)) := ⟨rfl, d, rfl, record, listed, ofClass, failed⟩
          exact ⟨[], none, s.stores, sink, _, Run.exec_bind_error ended, .nothing _, .nil, next⟩
      | ok rows =>
          have complete : CompleteBatch m records d ⟨d.object, rows⟩ :=
            ⟨rfl, mapM_eq_ok_iff.mp made⟩
          obtain ⟨sink, ended⟩ := exec_writeData_of_ok made counts s
          rcases written : RecordTarget.write d.object rows s.stores with ⟨e | _, w⟩
          · rw [written] at ended
            exact ⟨[⟨d.object, rows⟩], some e, w, sink, .error (.storage e),
              Run.exec_bind_error ended, .refused written, .cons complete .nil, rfl⟩
          · rw [written] at ended
            obtain ⟨batches, fault, w', sink', result, further, handed, batchesComplete, ends⟩ :=
              ih (countBatch counts ⟨d.object, rows⟩) ⟨w, s.idents, sink⟩
            exact ⟨⟨d.object, rows⟩ :: batches, fault, w', sink', result,
              (Run.exec_bind_ok ended).trans further, .accepted written handed,
              .cons complete batchesComplete, ends.cons⟩

/-- The batches of all declarations hold the rows that are counted. -/
theorem countsRows_foldl_countBatch {ds : List DataDeclaration} {batches : List Batch}
    (complete : List.Forall₂ (CompleteBatch m records) ds batches) :
    CountsRows ds batches (batches.foldl countBatch .empty) := by
  have objects : batches.map Batch.object = ds.map DataDeclaration.object := by
    induction complete with
    | nil => rfl
    | cons first _ ih => rw [List.map_cons, List.map_cons, first.object, ih]
  constructor
  · rw [keys_foldl_countBatch, objects]
  · intro d member
    apply get?_foldl_countBatch
    rw [objects]
    exact List.mem_map_of_mem member

/-- Writing records hands over the batches of the first declarations. It ends well if these are all
declarations, and then counts the rows of each object. -/
theorem exec_writeRecords (m : Model) (records : List Record) (s : Session ω γ) :
    ∃ (batches : List Batch) (fault : Option StorageError) (w : ω) (sink : TraceSink)
      (result : Except ConversionError (Dict String Nat)),
      (writeRecords m records).exec s = (result, ⟨w, s.idents, sink⟩) ∧
        Handed s.stores batches fault w ∧
        List.Forall₂ (CompleteBatch m records) (m.data.take batches.length) batches ∧
        EndsAfter m records m.data batches fault (CountsRows m.data batches) result := by
  obtain ⟨batches, fault, w, sink, result, ended, handed, complete, ends⟩ :=
    exec_foldlM_writeData_cases m records m.data .empty s
  refine ⟨batches, fault, w, sink, result, ended, handed, complete, ?_⟩
  rcases result with (e | e) | counts
  · exact ends
  · exact ends
  · obtain ⟨unfaulted, all, rfl⟩ := ends
    rw [all, List.take_length] at complete
    exact ⟨unfaulted, all, countsRows_foldl_countBatch complete⟩

/-- Where writing ends well, the complete batches of all declarations were handed over. -/
theorem exists_of_writeRecords_eq_ok {counts : Dict String Nat} {s s' : Session ω γ}
    (ended : (writeRecords m records).exec s = (.ok counts, s')) :
    ∃ batches, Handed s.stores batches none s'.stores ∧
      List.Forall₂ (CompleteBatch m records) m.data batches := by
  obtain ⟨batches, fault, w, sink, result, same, handed, complete, ends⟩ :=
    exec_writeRecords m records s
  obtain ⟨rfl, rfl⟩ := Prod.mk.inj (ended.symm.trans same)
  obtain ⟨rfl, all, -⟩ := ends
  rw [all, List.take_length] at complete
  exact ⟨batches, handed, complete⟩

end Write

/-! ## Targets -/

/-- Batches handed to a source and a target are handed to the target. -/
theorem Handed.target [RecordTarget τ] {e e' : Endpoints σ τ} {batches : List Batch}
    {fault : Option StorageError} (handed : Handed e batches fault e') :
    Handed e.target batches fault e'.target := by
  induction handed with
  | nothing => exact .nothing _
  | refused refusal =>
      obtain ⟨refused, rfl⟩ := Prod.mk.inj refusal
      exact .refused (Prod.ext refused rfl)
  | accepted acceptance _ ih =>
      obtain ⟨accepted, rfl⟩ := Prod.mk.inj acceptance
      exact .accepted (Prod.ext accepted rfl) ih

/-- Rows in memory refuse no batch. Every object holds what it held and then the rows of its
batches, and an object without such rows is as it was. -/
theorem Handed.rows_memory {s s' : MemoryStore} {batches : List Batch}
    {fault : Option StorageError} (handed : Handed s batches fault s') :
    fault = none ∧ ∀ object, s'.rows object = s.rows object ++ rowsUnder object batches ∧
      (rowsUnder object batches = [] → s'.objects.get? object = s.objects.get? object) := by
  induction handed with
  | nothing => exact ⟨rfl, fun object => ⟨(List.append_nil _).symm, fun _ => rfl⟩⟩
  | refused refusal => cases refusal
  | @accepted s s' s'' b batches fault acceptance _ ih =>
      obtain ⟨unfaulted, held⟩ := ih
      obtain ⟨-, rfl⟩ := Prod.mk.inj acceptance
      refine ⟨unfaulted, fun object => ?_⟩
      obtain ⟨rows, untouched⟩ := held object
      rw [rowsUnder_cons]
      constructor
      · rw [rows, MemoryStore.rows_append]
        by_cases same : b.object = object
        · rw [if_pos same.symm, if_pos same, List.append_assoc]
        · rw [if_neg (Ne.symm same), if_neg same, List.nil_append]
      · intro none
        obtain ⟨noneNow, noneLater⟩ := List.append_eq_nil_iff.mp none
        rw [untouched noneLater]
        apply MemoryStore.get?_objects_append
        intro same
        rwa [if_pos same] at noneNow

/-! ## Conversions -/

section Convert

variable [RecordSource ω] [RecordTarget ω] [IdentSource γ] {source target : Model} {tracing : Bool}

/-- A conversion that cannot read its records ends as reading them does. -/
theorem exec_convert_of_error {e : ConversionError} {before after : Session ω γ}
    (read : (readRecords source).exec { before with sink := .start tracing } = (.error e, after)) :
    (convert source target tracing).exec before = (.error e, after) := by
  have started : (Run.startTrace tracing : Run ω γ ConversionError Unit).exec before =
      (.ok (), { before with sink := .start tracing }) := rfl
  rw [convert, Run.exec_bind_ok started, Run.exec_bind_error read]

/-- A conversion that has read its records ends as writing them does. -/
theorem exec_convert_of_ok {records : List Record} {before mid after : Session ω γ}
    {result : Except ConversionError (Dict String Nat)}
    (read : (readRecords source).exec { before with sink := .start tracing } = (.ok records, mid))
    (written : (writeRecords target records).exec mid = (result, after)) :
    (convert source target tracing).exec before =
      (result.map fun counts => ⟨records, after.sink.events, counts⟩, after) := by
  have started : (Run.startTrace tracing : Run ω γ ConversionError Unit).exec before =
      (.ok (), { before with sink := .start tracing }) := rfl
  rw [convert, Run.exec_bind_ok started, Run.exec_bind_ok read]
  cases result with
  | error e => rw [Run.exec_bind_error written]; rfl
  | ok counts => rw [Run.exec_bind_ok written]; rfl

/-- A conversion that ends well has read the records of its outcome and written them. -/
theorem exists_of_convert_eq_ok {outcome : Outcome} {before after : Session ω γ}
    (ended : (convert source target tracing).exec before = (.ok outcome, after)) :
    ∃ mid,
      (readRecords source).exec { before with sink := .start tracing } =
          (.ok outcome.records, mid) ∧
        (writeRecords target outcome.records).exec mid = (.ok outcome.rowsWritten, after) ∧
        outcome.trace = after.sink.events := by
  rcases read : (readRecords source).exec { before with sink := .start tracing } with
    ⟨e | records, mid⟩
  · rw [exec_convert_of_error read] at ended
    cases ended
  · rcases written : (writeRecords target records).exec mid with ⟨e | counts, last⟩
    · rw [exec_convert_of_ok read written] at ended
      cases ended
    · rw [exec_convert_of_ok read written] at ended
      cases ended
      exact ⟨mid, rfl, written, rfl⟩

end Convert

/-- **What a conversion hands over.** A conversion that cannot read its records hands nothing to the
target. Any other one hands over the complete batches of the first declarations, in their order; it
ends well with those of all declarations, fails without a further row where the next declaration has
a record that cannot be resolved, and fails with the fault of the last batch where that is refused.
Rows in memory then hold what they held and the rows handed over. -/
theorem convert_hands_over [RecordSource σ] [IdentSource γ] (source target : Model)
    (tracing : Bool) :
    (∀ {τ : Type} [RecordTarget τ] (before : Session (Endpoints σ τ) γ),
      let read := (readRecords source).exec { before with sink := .start tracing }
      let run := (convert source target tracing).exec before
      match read.1 with
      | .error e => run.1 = .error e ∧ run.2.stores.target = before.stores.target
      | .ok records =>
        ∃ (batches : List Batch) (fault : Option StorageError),
          Handed before.stores.target batches fault run.2.stores.target ∧
            List.Forall₂ (CompleteBatch target records) (target.data.take batches.length) batches ∧
            EndsAfter target records target.data batches fault
              (fun outcome => outcome.records = records ∧
                CountsRows target.data batches outcome.rowsWritten) run.1) ∧
    ∀ {s s' : MemoryStore} {batches : List Batch} {fault : Option StorageError},
      Handed s batches fault s' →
        fault = none ∧ ∀ object, s'.rows object = s.rows object ++ rowsUnder object batches ∧
          (rowsUnder object batches = [] → s'.objects.get? object = s.objects.get? object) := by
  refine ⟨fun {τ} _ before => ?_, Handed.rows_memory⟩
  -- Reading leaves the target alone, so the first batch meets it as it was.
  have kept : (readRecords source : Run (Endpoints σ τ) γ ConversionError _).Keeps
      Endpoints.target := keeps_readRecords (fun _ _ _ => rfl) source
  have untouched := kept { before with sink := .start tracing }
  rcases read : (readRecords source).exec { before with sink := .start tracing } with
    ⟨e | records, mid⟩
  · rw [read] at untouched
    rw [exec_convert_of_error read]
    exact ⟨rfl, untouched⟩
  · rw [read] at untouched
    obtain ⟨batches, fault, stores, sink, result, written, handed, complete, ends⟩ :=
      exec_writeRecords target records mid
    rw [exec_convert_of_ok read written]
    refine ⟨batches, fault, ?_, complete, ?_⟩
    · have handed := handed.target
      rwa [untouched] at handed
    · rcases result with (e | e) | counts
      · exact ends
      · exact ends
      · obtain ⟨unfaulted, all, counted⟩ := ends
        exact ⟨unfaulted, all, rfl, counted⟩

/-- Plots that two declarations write to one object. -/
def plotModel : Model :=
  { Model.bare "Plots" with
    data := [
      { DataDeclaration.bare "P" "PLOTS" "Plot" with identColumn := some "ID" },
      { DataDeclaration.bare "Q" "PLOTS" "Plot" with identColumn := some "KEY" }] }

def plotSession : Session (Endpoints MemoryStore MemoryStore) NumberedIdents :=
  ⟨⟨MemoryStore.empty.insertRows "PLOTS" [.ofList [("ID", .string "1"), ("KEY", .string "2")]],
    .empty⟩, .fresh "n", .discard⟩

theorem convert_hands_over_plots :
    let after := ((convert plotModel plotModel false).exec plotSession).2.stores.target
    ∃ (batches : List Batch) (fault : Option StorageError),
      Handed plotSession.stores.target batches fault after ∧ fault = none ∧
        List.Forall₂ (CompleteBatch plotModel [.bare "Plot" "1", .bare "Plot" "2"])
          (plotModel.data.take batches.length) batches ∧
        after.rows "PLOTS" = rowsUnder "PLOTS" batches ∧
        rowsUnder "PLOTS" batches =
          [.ofList [("ID", .string "1")], .ofList [("ID", .string "2")],
            .ofList [("KEY", .string "1")], .ofList [("KEY", .string "2")]] := by
  have delivered := (convert_hands_over (σ := MemoryStore) plotModel plotModel false).1 plotSession
  have read : ((readRecords plotModel).exec { plotSession with sink := .start false }).1 =
      .ok [.bare "Plot" "1", .bare "Plot" "2"] := by
    decide +kernel
  dsimp only at delivered
  rw [read] at delivered
  obtain ⟨batches, fault, handed, complete, -⟩ := delivered
  obtain ⟨unfaulted, rows⟩ :=
    (convert_hands_over (σ := MemoryStore) (γ := NumberedIdents) plotModel plotModel false).2 handed
  have held := (rows "PLOTS").1
  exact ⟨batches, fault, handed, unfaulted, complete, held, held.symm.trans rfl⟩

end Crossmap
