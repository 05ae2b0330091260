import Crossmap.Proofs.Conversion.Telling

/-! # What stores give to declarations

Declarations are read one after another, and each read can change what the stores answer to the
next (`Gives`). Whatever the stores answer, reading the records of a model takes in the rows that
they give: it makes one record of every row, in the order of the rows, and tells the events of each
(`takesIn_readRecords`).
-/

namespace Crossmap

open Mapping

variable {ω γ : Type}

namespace Reading

/-- The object that is read. -/
def object : Reading → String
  | .data d => d.object
  | .inspection i => i.object

/-- What its rows have to satisfy: an inspection asks for nothing. -/
def filter : Reading → Filter
  | .data d => d.filter
  | .inspection _ => .empty

/-- The column of the ident, if one is declared. -/
def identColumn : Reading → Option String
  | .data d => d.identColumn
  | .inspection i => i.identColumn

end Reading

/-- What stores come to by being read for declarations one after another, and the rows that they
give, each with the declaration that reads it. -/
inductive Gives [RecordSource ω] : ω → List Reading → List (Reading × Row) → ω → Prop
  | nothing (w : ω) : Gives w [] [] w
  | rows {w w' w'' : ω} {r : Reading} {rows : List Row} {rest : List Reading}
      {origins : List (Reading × Row)}
      (answer : RecordSource.read r.object r.filter w = (.ok rows, w'))
      (further : Gives w' rest origins w'') :
      Gives w (r :: rest) (rows.map (fun row => (r, row)) ++ origins) w''

namespace Gives

variable [RecordSource ω] {w w' w'' : ω} {rs rs' : List Reading}
  {origins origins' : List (Reading × Row)}

/-- Stores that are read for declarations and then for more are read for all of them. -/
theorem append (first : Gives w rs origins w') (second : Gives w' rs' origins' w'') :
    Gives w (rs ++ rs') (origins ++ origins') w'' := by
  induction first with
  | nothing => exact second
  | rows answer _ ih =>
      rw [List.append_assoc]
      exact .rows answer (ih second)

/-- Rows are read by the declarations that they are given to. -/
theorem mem_readings (gives : Gives w rs origins w') {o : Reading × Row} (member : o ∈ origins) :
    o.1 ∈ rs := by
  induction gives with
  | nothing => cases member
  | rows _ _ ih =>
      rcases List.mem_append.mp member with ofRows | further
      · obtain ⟨row, -, rfl⟩ := List.mem_map.mp ofRows
        exact List.mem_cons_self
      · exact List.mem_cons_of_mem _ (ih further)

/-- What stores give is determined by the stores and the declarations. -/
theorem unique (first : Gives w rs origins w') (second : Gives w rs origins' w'') :
    origins = origins' := by
  induction first generalizing origins' with
  | nothing =>
      cases second
      rfl
  | rows answer _ ih =>
      cases second with
      | rows answer' further' =>
          obtain ⟨same, rfl⟩ := Prod.mk.inj (answer.symm.trans answer')
          rw [Except.ok.inj same, ih further']

end Gives

/-! ## Taking rows in -/

/-- A row that is read, the declaration that reads it, and the record that is made of it. -/
structure Intake where
  reading : Reading
  row : Row
  record : Record

namespace Intake

/-- The row with the declaration that reads it. -/
def origin (i : Intake) : Reading × Row := (i.reading, i.row)

/-- The events of the row. -/
def events (m : Model) (i : Intake) : List TraceEvent := i.reading.events m i.row i.record

end Intake

/-- Rows that one declaration reads, each with the record that is made of it. -/
def intakesOf (r : Reading) (rows : List Row) (records : List Record) : List Intake :=
  (rows.zip records).map fun p => ⟨r, p.1, p.2⟩

section Intakes

variable {r : Reading} {rows : List Row} {records : List Record}

/-- The rows that one declaration takes in are those it reads. -/
theorem map_origin_intakesOf (length : rows.length = records.length) :
    (intakesOf r rows records).map Intake.origin = rows.map fun row => (r, row) := by
  have first : (rows.zip records).map Prod.fst = rows := List.map_fst_zip (Nat.le_of_eq length)
  conv_rhs => rw [← first]
  rw [intakesOf, List.map_map, List.map_map]
  rfl

/-- The records that one declaration takes in are those it makes. -/
theorem map_record_intakesOf (length : rows.length = records.length) :
    (intakesOf r rows records).map Intake.record = records := by
  rw [intakesOf, List.map_map]
  exact List.map_snd_zip (Nat.le_of_eq length.symm)

end Intakes

/-- What a session comes to by taking in the rows that its stores give to declarations: a record is
made of every row, and the events of the row are told. -/
structure TakesIn [RecordSource ω] (m : Model) (s : Session ω γ) (rs : List Reading)
    (intakes : List Intake) (s' : Session ω γ) : Prop where
  gives : Gives s.stores rs (intakes.map Intake.origin) s'.stores
  made : ∀ i ∈ intakes, i.reading.Makes m i.row i.record
  told : s'.sink = s.sink.receiveAll (intakes.flatMap (Intake.events m))

section Read

variable [RecordSource ω] {m : Model}

/-- Without declarations nothing is taken in. -/
theorem takesIn_nothing (s : Session ω γ) : TakesIn m s [] [] s where
  gives := .nothing s.stores
  made := List.forall_mem_nil _
  told := rfl

/-- What is taken in for declarations and then for more is taken in for all of them. -/
theorem TakesIn.append {s mid s' : Session ω γ} {rs rs' : List Reading}
    {intakes intakes' : List Intake} (first : TakesIn m s rs intakes mid)
    (second : TakesIn m mid rs' intakes' s') :
    TakesIn m s (rs ++ rs') (intakes ++ intakes') s' where
  gives := by
    rw [List.map_append]
    exact first.gives.append second.gives
  made := List.forall_mem_append.mpr ⟨first.made, second.made⟩
  told := by rw [second.told, first.told, List.flatMap_append, TraceSink.receiveAll_append]

/-- Whether a run reads for one declaration: if it ends well, it has taken in the rows that the
stores give to it. -/
def ReadsFor (m : Model) (r : Reading) (run : Run ω γ ConversionError (List Record)) : Prop :=
  ∀ s s' records, run.exec s = (.ok records, s') →
    ∃ intakes, TakesIn m s [r] intakes s' ∧ intakes.map Intake.record = records

/-- Reading the rows of an object, and then making a record of each. -/
theorem readsFor_of_rows {r : Reading} {f : Row → Run ω γ ConversionError Record}
    (makes : ∀ stores row, (f row).Yields stores (r.Makes m row))
    (tells : ∀ row, (f row).Tells fun record events => events = r.events m row record) :
    ReadsFor m r
      ((Run.readRows r.object r.filter).mapError .storage >>= fun rows => rows.mapM f) := by
  intro s s' records ended
  obtain ⟨rows, mid, read, followed⟩ := Run.exec_bind_eq_ok_iff.mp ended
  rw [Run.exec_mapError, Run.exec_readRows] at read
  obtain ⟨answered, rfl⟩ := Prod.mk.inj read
  have answer := mapError_eq_ok_iff.mp answered
  -- Two views of one run: the records that it makes, and the events that it tells of them.
  obtain ⟨made, kept⟩ := Run.yields_mapM (makes _) rows _ s' records rfl followed
  obtain ⟨events, ⟨length, rfl⟩, told⟩ := Run.tells_mapM tells rows _ s' records followed
  have given : RecordSource.read r.object r.filter s.stores = (.ok rows, s'.stores) :=
    Prod.ext answer kept.symm
  refine ⟨intakesOf r rows records, ⟨?_, ?_, ?_⟩, map_record_intakesOf length⟩
  · have gives := Gives.rows given (.nothing s'.stores)
    rwa [List.append_nil, ← map_origin_intakesOf length] at gives
  · intro i member
    obtain ⟨p, inZip, rfl⟩ := List.mem_map.mp member
    exact List.forall₂_zip made inZip
  · rw [told, intakesOf, List.flatMap_map]
    rfl

/-- Reading for declarations one after another. -/
theorem takesIn_of_mapM {δ : Type} {reading : δ → Reading}
    {f : δ → Run ω γ ConversionError (List Record)}
    (reads : ∀ d, ReadsFor m (reading d) (f d)) (ds : List δ) {s s' : Session ω γ}
    {records : List (List Record)} (ended : (ds.mapM f).exec s = (.ok records, s')) :
    ∃ intakes, TakesIn m s (ds.map reading) intakes s' ∧
      intakes.map Intake.record = records.flatten := by
  induction ds generalizing s records with
  | nil =>
      obtain ⟨result, rfl⟩ := Prod.mk.inj ended
      obtain rfl := Except.ok.inj result
      exact ⟨[], takesIn_nothing s, rfl⟩
  | cons d rest ih =>
      rw [List.mapM_cons] at ended
      obtain ⟨first, mid, head, ended⟩ := Run.exec_bind_eq_ok_iff.mp ended
      obtain ⟨others, last, tail, ended⟩ := Run.exec_bind_eq_ok_iff.mp ended
      obtain ⟨result, rfl⟩ := Prod.mk.inj ended
      obtain rfl := Except.ok.inj result
      obtain ⟨intakes, taken, rfl⟩ := reads d _ _ _ head
      obtain ⟨intakes', taken', records⟩ := ih tail
      exact ⟨intakes ++ intakes', taken.append taken', by
        rw [List.map_append, records, List.flatten_cons]⟩

/-- **Reading takes in what the stores give.** Every record is made of a row that the stores gave,
and what is told are the events of these rows. -/
theorem takesIn_readRecords [IdentSource γ] {s s' : Session ω γ} {records : List Record}
    (ended : (readRecords m).exec s = (.ok records, s')) :
    ∃ intakes, TakesIn m s m.readings intakes s' ∧ intakes.map Intake.record = records := by
  have data (d : DataDeclaration) : ReadsFor m (.data d) (readData m d : Run ω γ _ _) :=
    readsFor_of_rows (fun _ row => yields_readDataRow m d row) (tells_readDataRow m d)
  have inspection (i : Inspection) : ReadsFor m (.inspection i) (inspect m i : Run ω γ _ _) :=
    readsFor_of_rows (fun _ row => yields_inspectRow m i row) (tells_inspectRow m i)
  obtain ⟨ofData, mid, first, ended⟩ := Run.exec_bind_eq_ok_iff.mp ended
  obtain ⟨ofInspections, last, second, ended⟩ := Run.exec_bind_eq_ok_iff.mp ended
  obtain ⟨result, rfl⟩ := Prod.mk.inj ended
  obtain rfl := Except.ok.inj result
  obtain ⟨intakes, taken, same⟩ := takesIn_of_mapM data m.data first
  obtain ⟨intakes', taken', same'⟩ := takesIn_of_mapM inspection m.inspections second
  exact ⟨intakes ++ intakes', taken.append taken', by rw [List.map_append, same, same']⟩

/-- Every record is made of a row that the stores gave. -/
theorem gives_of_readRecords [IdentSource γ] {s s' : Session ω γ} {records : List Record}
    (ended : (readRecords m).exec s = (.ok records, s')) :
    ∃ origins, Gives s.stores m.readings origins s'.stores ∧
      List.Forall₂ (fun o record => o.1.Makes m o.2 record) origins records := by
  obtain ⟨intakes, taken, rfl⟩ := takesIn_readRecords ended
  refine ⟨intakes.map Intake.origin, taken.gives, ?_⟩
  rw [List.forall₂_map_left_iff, List.forall₂_map_right_iff, List.forall₂_same]
  exact taken.made

end Read

end Crossmap
