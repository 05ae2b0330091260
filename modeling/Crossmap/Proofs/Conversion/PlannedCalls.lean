import Crossmap.Proofs.Conversion.Answers
import Crossmap.Proofs.Conversion.Delivery
import Crossmap.Proofs.Conversion.RunPairs
import Crossmap.Proofs.Conversion.Supervision

/-! # A conversion accesses stores as planned

`Recorded` stores keep a list of the accesses that they receive, and answer them as the stores
behind do (`answerAlike_recorded`). A plan comes down to tasks, one for each of its steps. What is
recorded of a conversion is an access for each of the first tasks, in their order, and for all of
them if it ends well (`Run.CarriesOut`, `execute_carries_out_plan`).
-/

namespace Crossmap

open Mapping

variable {ω γ : Type}

/-! ## Recorded accesses -/

/-- An access to stores. -/
inductive StoreCall where
  | read (object : String) (filter : Filter)
  | write (object : String) (rows : List Row)

/-- Stores, and the accesses that they have received, the first one first. -/
structure Recorded (ω : Type) where
  stores : ω
  calls : List StoreCall

instance [RecordSource ω] : RecordSource (Recorded ω) where
  read object filter w :=
    let r := RecordSource.read object filter w.stores
    (r.1, ⟨r.2, w.calls ++ [.read object filter]⟩)

instance [RecordTarget ω] : RecordTarget (Recorded ω) where
  write object rows w :=
    let r := RecordTarget.write object rows w.stores
    (r.1, ⟨r.2, w.calls ++ [.write object rows]⟩)

/-- The session with accesses recorded from now on. -/
def Session.recorded (s : Session ω γ) : Session (Recorded ω) γ :=
  { s with stores := ⟨s.stores, []⟩ }

variable [RecordSource ω] [RecordTarget ω]

/-- What an access makes of stores. -/
def StoreCall.effect (w : ω) : StoreCall → ω
  | .read object filter => (RecordSource.read object filter w).2
  | .write object rows => (RecordTarget.write object rows w).2

/-- What accesses make of recorded stores, one after another. -/
def Recorded.after (w : Recorded ω) (calls : List StoreCall) : Recorded ω :=
  ⟨calls.foldl StoreCall.effect w.stores, w.calls ++ calls⟩

theorem Recorded.after_nil (w : Recorded ω) : w.after [] = w := by
  rw [after, List.append_nil]
  rfl

/-- Accesses are recorded one after another, however they are grouped. -/
theorem Recorded.after_append (w : Recorded ω) (calls calls' : List StoreCall) :
    w.after (calls ++ calls') = (w.after calls).after calls' := by
  simp only [after, List.foldl_append, List.append_assoc]

/-- Stores are not changed by being recorded. -/
theorem answerAlike_recorded :
    AnswerAlike fun (w : Recorded ω) (w' : ω) => w.stores = w' where
  read := by
    intro object filter w w' same
    subst same
    exact ⟨rfl, rfl⟩
  write := by
    intro object rows w w' same
    subst same
    exact ⟨rfl, rfl⟩

/-! ## Tasks -/

/-- What a step of a plan asks for: the rows of a declaration are read or written. -/
inductive Task where
  | read (r : Reading)
  | write (d : DataDeclaration)

/-- The step of a plan that shows a task. -/
def Task.step : Task → PlanStep
  | .read (.data d) => Plan.readStep d
  | .read (.inspection i) => Plan.inspectStep i
  | .write d => Plan.writeStep d

/-- The tasks of a plan: all rows are read, and then all rows are written. -/
def Plan.tasks (p : Plan) : List Task :=
  p.sourceModel.readings.map .read ++ p.targetModel.data.map .write

theorem steps_build (schemaName : String) (source target : Model) :
    (Plan.build schemaName source target).steps =
      (Plan.build schemaName source target).tasks.map Task.step := by
  simp only [Plan.build, Plan.tasks, Model.readings, List.map_append, List.map_map]
  rfl

/-- Whether an access carries out a task. A reading task reads what its step names, under the filter
of the declaration. A writing task writes to what its step names, a row for every record of the
class of the step. -/
inductive Task.Asks (m : Model) (records : List Record) : Task → StoreCall → Prop
  | read (r : Reading) : Asks m records (.read r) (.read (Task.read r).step.source r.filter)
  | write (d : DataDeclaration) {rows : List Row}
      (made : List.Forall₂ (fun record row => writtenRow m d record = .ok row)
        (records.filter fun record => record.className = (Task.write d).step.source) rows) :
      Asks m records (.write d) (.write (Task.write d).step.target rows)

/-! ## Carrying out tasks -/

namespace Run

variable {ε ε' α β δ : Type} {asks : Task → StoreCall → Prop} {s : Session (Recorded ω) γ}

/-- A run that, from a session, carries out the first of some tasks by one access for each, and all
of them if it ends well. -/
def CarriesOut (asks : Task → StoreCall → Prop) (tasks : List Task) (r : Run (Recorded ω) γ ε α)
    (s : Session (Recorded ω) γ) : Prop :=
  ∃ done calls, (r.exec s).2.stores = s.stores.after calls ∧ List.Forall₂ asks done calls ∧
    done <+: tasks ∧ ((r.exec s).1.isOk = true → done = tasks)

/-- A run that changes nothing in the stores carries out no task. -/
theorem carriesOut_of_keeps {r : Run (Recorded ω) γ ε α} (keeps : r.Keeps fun w => w) :
    r.CarriesOut asks [] s := by
  have kept : (r.exec s).2.stores = s.stores := keeps s
  refine ⟨[], [], ?_, .nil, List.prefix_refl [], fun _ => rfl⟩
  rw [kept, Recorded.after_nil]

/-- A run carries out the same tasks when its errors are reworded. -/
theorem CarriesOut.mapError {tasks : List Task} {r : Run (Recorded ω) γ ε α}
    (carries : r.CarriesOut asks tasks s) (f : ε → ε') :
    (r.mapError f).CarriesOut asks tasks s := by
  obtain ⟨done, calls, recorded, asked, front, all⟩ := carries
  refine ⟨done, calls, ?_, asked, front, ?_⟩
  · rw [exec_mapError]
    exact recorded
  · intro ended
    apply all
    rw [exec_mapError] at ended
    cases result : (r.exec s).1 with
    | error e =>
        rw [result] at ended
        cases ended
    | ok a => rfl

/-- Runs in sequence carry out the tasks of both, those of the second only if the first one ends
well. -/
theorem CarriesOut.bind {tasks tasks' : List Task} {r : Run (Recorded ω) γ ε α}
    {f : α → Run (Recorded ω) γ ε β} (first : r.CarriesOut asks tasks s)
    (next : ∀ a mid, r.exec s = (.ok a, mid) → (f a).CarriesOut asks tasks' mid) :
    (r >>= f).CarriesOut asks (tasks ++ tasks') s := by
  obtain ⟨done, calls, recorded, asked, front, all⟩ := first
  rcases ended : r.exec s with ⟨e | a, mid⟩
  · rw [ended] at recorded
    refine ⟨done, calls, ?_, asked, front.trans (List.prefix_append _ _), ?_⟩
    · rw [exec_bind_error ended]
      exact recorded
    · intro well
      rw [exec_bind_error ended] at well
      cases well
  · rw [ended] at recorded all
    obtain rfl := all rfl
    obtain ⟨done', calls', recorded', asked', front', all'⟩ := next a mid ended
    refine ⟨done ++ done', calls ++ calls', ?_, List.rel_append asked asked', ?_, ?_⟩
    · rw [exec_bind_ok ended, recorded', recorded, Recorded.after_append]
    · exact (List.prefix_append_right_inj done).mpr front'
    · intro well
      rw [exec_bind_ok ended] at well
      rw [all' well]

/-- Runs for the items of a list carry out one task each. -/
theorem carriesOut_mapM {task : δ → Task} {f : δ → Run (Recorded ω) γ ε α}
    (steps : ∀ d s, (f d).CarriesOut asks [task d] s) (l : List δ) :
    (l.mapM f).CarriesOut asks (l.map task) s := by
  induction l generalizing s with
  | nil => exact carriesOut_of_keeps (keeps_pure [])
  | cons d rest ih =>
      rw [List.mapM_cons]
      apply (steps d s).bind
      intro a mid _
      have others := (ih (s := mid)).bind (f := fun as => pure (a :: as)) fun as last _ =>
        carriesOut_of_keeps (keeps_pure (a :: as))
      rwa [List.append_nil] at others

/-- The steps of a fold carry out one task each. -/
theorem carriesOut_foldlM {task : δ → Task} {f : α → δ → Run (Recorded ω) γ ε α}
    (steps : ∀ a d s, (f a d).CarriesOut asks [task d] s) (l : List δ) (a : α) :
    (l.foldlM f a).CarriesOut asks (l.map task) s := by
  induction l generalizing a s with
  | nil => exact carriesOut_of_keeps (keeps_pure a)
  | cons d rest ih =>
      rw [List.foldlM_cons]
      apply (steps a d s).bind
      intro b mid _
      exact ih b

/-- A read carries out the task that asks for it, also where it is refused. -/
theorem carriesOut_readRows {task : Task} {object : String} {filter : Filter}
    (asked : asks task (.read object filter)) :
    (readRows object filter : Run (Recorded ω) γ StorageError _).CarriesOut asks [task] s :=
  ⟨[task], _, rfl, .cons asked .nil, List.prefix_refl _, fun _ => rfl⟩

/-- A write carries out the task that asks for it, also where it is refused. -/
theorem carriesOut_writeRows {task : Task} {object : String} {rows : List Row}
    (asked : asks task (.write object rows)) :
    (writeRows object rows : Run (Recorded ω) γ StorageError _).CarriesOut asks [task] s :=
  ⟨[task], _, rfl, .cons asked .nil, List.prefix_refl _, fun _ => rfl⟩

/-- A run that carries out one task, and then goes on without any access. -/
theorem CarriesOut.bind_keeps {task : Task} {r : Run (Recorded ω) γ ε α}
    {f : α → Run (Recorded ω) γ ε β} (first : r.CarriesOut asks [task] s)
    (next : ∀ a, (f a).Keeps fun w => w) : (r >>= f).CarriesOut asks [task] s := by
  have both := first.bind fun a mid _ => carriesOut_of_keeps (s := mid) (next a)
  rwa [List.append_nil] at both

end Run

/-! ## The phases of a conversion -/

section Phases

variable {m : Model} {records : List Record} {s : Session (Recorded ω) γ}

/-- Reading the rows of a declaration carries out the task of reading for it. -/
theorem carriesOut_reading (r : Reading) :
    (Run.readRows r.object r.filter : Run (Recorded ω) γ StorageError _).CarriesOut
      (Task.Asks m records) [.read r] s := by
  have asked : Task.Asks m records (.read r) _ := .read r
  cases r with
  | data d => exact Run.carriesOut_readRows asked
  | inspection i => exact Run.carriesOut_readRows asked

/-- Declarations of data and then inspections, of which each is a reading task. -/
theorem carriesOut_readings {ε α β : Type} {data : DataDeclaration → Run (Recorded ω) γ ε α}
    {inspection : Inspection → Run (Recorded ω) γ ε α}
    {f : List α → List α → Run (Recorded ω) γ ε β}
    (ofData : ∀ d s, (data d).CarriesOut (Task.Asks m records) [.read (.data d)] s)
    (ofInspection : ∀ i s,
      (inspection i).CarriesOut (Task.Asks m records) [.read (.inspection i)] s)
    (last : ∀ as bs, (f as bs).Keeps fun w => w) (source : Model) :
    (source.data.mapM data >>= fun as => source.inspections.mapM inspection >>= f as).CarriesOut
      (Task.Asks m records) (source.readings.map .read) s := by
  have inspections (as : List α) (mid : Session (Recorded ω) γ) :
      (source.inspections.mapM inspection >>= f as).CarriesOut (Task.Asks m records)
        (source.inspections.map fun i => .read (.inspection i)) mid := by
    have both := (Run.carriesOut_mapM ofInspection source.inspections (s := mid)).bind
      fun bs after _ => Run.carriesOut_of_keeps (s := after) (last as bs)
    rwa [List.append_nil] at both
  have both := (Run.carriesOut_mapM ofData source.data (s := s)).bind
    fun as mid _ => inspections as mid
  rw [Model.readings, List.map_append, List.map_map, List.map_map]
  exact both

/-- Reading records carries out one reading task for each declaration. -/
theorem carriesOut_readRecords [IdentSource γ] (source : Model) :
    (readRecords source : Run (Recorded ω) γ ConversionError _).CarriesOut (Task.Asks m records)
      (source.readings.map .read) s := by
  apply carriesOut_readings
  · intro d s
    apply ((carriesOut_reading (.data d)).mapError ConversionError.storage).bind_keeps
    exact Run.keeps_mapM (keeps_readDataRow source d)
  · intro i s
    apply ((carriesOut_reading (.inspection i)).mapError ConversionError.storage).bind_keeps
    exact Run.keeps_mapM (keeps_inspectRow source i)
  · intro ofData ofInspections
    exact Run.keeps_pure _

/-- A check of source rows carries out the same reading tasks as reading records. -/
theorem carriesOut_missingColumns (source : Model) :
    (missingColumns source : Run (Recorded ω) γ StorageError _).CarriesOut (Task.Asks m records)
      (source.readings.map .read) s := by
  apply carriesOut_readings
  · intro d s
    apply (carriesOut_reading (.data d)).bind_keeps
    intro rows
    exact Run.keeps_pure _
  · intro i s
    apply (carriesOut_reading (.inspection i)).bind_keeps
    intro rows
    exact Run.keeps_pure _
  · intro ofData ofInspections
    exact Run.keeps_pure _

/-- Writing the records of a class carries out the task of writing for its declaration, unless one
of them does not resolve. -/
theorem carriesOut_writeData (counts : Dict String Nat) (d : DataDeclaration) :
    (writeData m records counts d : Run (Recorded ω) γ ConversionError _).CarriesOut
      (Task.Asks m records) [.write d] s := by
  have rows := Run.settles_mapM (ω := Recorded ω) (γ := γ) (settles_writeRow m d)
    (recordsFor d records)
  have silent : ((recordsFor d records).mapM (writeRow m d) : Run (Recorded ω) γ _ _).CarriesOut
      (Task.Asks m records) [] s := Run.carriesOut_of_keeps rows.keeps
  apply silent.bind
  intro written mid ended
  obtain ⟨sink, settled⟩ := rows s
  have made : (recordsFor d records).mapM (writtenRow m d) = .ok written :=
    congrArg Prod.fst (settled.symm.trans ended)
  have asked : Task.Asks m records (.write d) (.write d.object written) :=
    .write d (mapM_eq_ok_iff.mp made)
  apply ((Run.carriesOut_writeRows asked).mapError ConversionError.storage).bind_keeps
  intro _
  exact Run.keeps_pure _

/-- Writing records carries out one writing task for each declaration. -/
theorem carriesOut_writeRecords :
    (writeRecords m records : Run (Recorded ω) γ ConversionError _).CarriesOut
      (Task.Asks m records) (m.data.map .write) s :=
  Run.carriesOut_foldlM (fun counts d _ => carriesOut_writeData counts d) m.data .empty

variable [IdentSource γ]

/-- A conversion carries out the tasks of its models, for the records that it reads. -/
theorem carriesOut_convert {source : Model} {tracing : Bool}
    (read : ∀ rs, ((readRecords source).exec { s with sink := .start tracing }).1 = .ok rs →
      rs = records) :
    (convert source m tracing : Run (Recorded ω) γ ConversionError _).CarriesOut
      (Task.Asks m records) (source.readings.map .read ++ m.data.map .write) s := by
  have started : (Run.startTrace tracing : Run (Recorded ω) γ ConversionError Unit).Keeps
      fun w => w := fun _ => rfl
  have traced : (Run.events : Run (Recorded ω) γ ConversionError _).Keeps fun w => w :=
    fun _ => rfl
  apply (Run.carriesOut_of_keeps started).bind
  intro _ mid startedAs
  obtain ⟨-, rfl⟩ := Prod.mk.inj startedAs
  apply (carriesOut_readRecords source).bind
  intro rs last ended
  obtain rfl := read rs (congrArg Prod.fst ended)
  have written : (writeRecords m rs : Run (Recorded ω) γ _ _).CarriesOut (Task.Asks m rs)
      (m.data.map .write) last := carriesOut_writeRecords
  have whole := written.bind fun counts after _ => Run.carriesOut_of_keeps (s := after)
    (traced.bind fun events => Run.keeps_pure (Outcome.mk rs events counts))
  rwa [List.append_nil] at whole

end Phases

/-! ## Plans -/

/-- The tasks of the check of source rows, where there is one: it reads what the plan reads. -/
def Settings.checkTasks (settings : Settings) (plan : Plan) : List Task :=
  if settings.checkSource then plan.sourceModel.readings.map .read else []

omit [RecordTarget ω] in

/-- The records that a plan reads, after the check of the source rows; none where they cannot be
read. -/
def Settings.recordsRead [IdentSource γ] (settings : Settings) (plan : Plan)
    (before : Session ω γ) : List Record :=
  let checked := ((settings.checkSourceRows plan).exec before).2
  let read := (readRecords plan.sourceModel).exec { checked with sink := .start settings.trace }
  read.1.toOption.getD []

/-- Whether the tasks that were carried out, first for a check and then for a plan, are those after
which a run can end so. -/
def EndsWithTasks (checkTasks tasks checks done : List Task) (records : List Record) :
    Except SupervisionError Outcome → Prop
  | .ok outcome => checks = checkTasks ∧ done = tasks ∧ outcome.records = records
  | .error (.unfitRecords _) => checks = checkTasks ∧ done = tasks
  | .error (.conversion _) => checks = checkTasks
  | .error (.unfitRows _) => checks = checkTasks ∧ done = []
  | .error (.storage _) => done = []
  | .error (.unfitModels _) => False

/-- Checking the source rows carries out the reading tasks, and only a read that fails keeps it from
carrying out all of them. -/
theorem exists_checks (settings : Settings) (plan : Plan) (records : List Record)
    (s : Session (Recorded ω) γ) :
    ∃ checks calls,
      ((settings.checkSourceRows plan).exec s).2.stores = s.stores.after calls ∧
        List.Forall₂ (Task.Asks plan.targetModel records) checks calls ∧
        checks <+: settings.checkTasks plan ∧
        match ((settings.checkSourceRows plan).exec s).1 with
        | .ok _ => checks = settings.checkTasks plan
        | .error e =>
          EndsWithTasks (settings.checkTasks plan) plan.tasks checks [] records (.error e) := by
  by_cases on : settings.checkSource = true
  · have all : settings.checkTasks plan = plan.sourceModel.readings.map .read := if_pos on
    have missing : (missingColumns plan.sourceModel : Run (Recorded ω) γ _ _).CarriesOut
        (Task.Asks plan.targetModel records) (settings.checkTasks plan) s := by
      rw [all]
      exact carriesOut_missingColumns plan.sourceModel
    obtain ⟨checks, calls, recorded, asked, front, complete⟩ := missing
    refine ⟨checks, calls, ?_⟩
    rcases ended : (missingColumns plan.sourceModel).exec s with ⟨e | messages, mid⟩
    · rw [ended] at recorded
      rw [Settings.exec_checkSourceRows_of_error on ended]
      exact ⟨recorded, asked, front, rfl⟩
    · rw [ended] at recorded complete
      rw [Settings.exec_checkSourceRows_of_ok on ended]
      refine ⟨recorded, asked, front, ?_⟩
      have whole := complete rfl
      by_cases empty : messages.isEmpty = true
      · simp only [empty, if_true]
        exact whole
      · simp only [empty, Bool.false_eq_true, if_false]
        exact ⟨whole, rfl⟩
  · have off := Bool.eq_false_iff.mpr on
    have all : settings.checkTasks plan = [] := if_neg on
    rw [Settings.exec_checkSourceRows_of_off off, all]
    exact ⟨[], [], (Recorded.after_nil _).symm, .nil, List.prefix_refl [], rfl⟩

variable [IdentSource γ]

/-- The records that a plan reads are read from recorded stores as well. -/
theorem recordsRead_recorded (settings : Settings) (plan : Plan) (before : Session ω γ) :
    settings.recordsRead plan before.recorded = settings.recordsRead plan before := by
  have alike : AnswerAlike fun (w : Recorded ω) (w' : ω) => w.stores = w' := answerAlike_recorded
  have like : Session.Like (fun w w' => w.stores = w') before.recorded before := ⟨rfl, rfl, rfl⟩
  obtain ⟨-, mid⟩ := corresponds_checkSourceRows alike settings plan _ _ like
  have started : Session.Like (fun (w : Recorded ω) (w' : ω) => w.stores = w')
      { ((settings.checkSourceRows plan).exec before.recorded).2 with
        sink := .start settings.trace }
      { ((settings.checkSourceRows plan).exec before).2 with sink := .start settings.trace } :=
    ⟨mid.stores, mid.idents, rfl⟩
  obtain ⟨read, -⟩ := corresponds_readRecords_eq alike.readAlike plan.sourceModel _ _ started
  exact congrArg (fun result => result.toOption.getD []) (endAlike_eq_iff.mp read)

/-- **A conversion accesses stores as its plan shows.** Every step of a plan shows a task. With the
accesses recorded a plan ends as it does without; what is recorded are an access for each of the
first reading tasks, if the source rows are checked, and then one for each of the first tasks of the
plan. A plan that ends well, or with records that are refused, has carried out all of them; one
whose conversion fails has passed the check; and one that does not pass the check has carried out no
task but those of the check. -/
theorem execute_carries_out_plan (settings : Settings) (schema : Schema) (schemaName : String)
    (source target : Model) (before : Session ω γ) :
    let plan := Plan.build schemaName source target
    let run := (settings.execute schema plan).exec before
    let recorded := (settings.execute schema plan).exec before.recorded
    let records := settings.recordsRead plan before
    plan.steps = plan.tasks.map Task.step ∧
      recorded.1 = run.1 ∧ recorded.2.stores.stores = run.2.stores ∧
      ∃ checks done callsOfChecks callsOfPlan,
        recorded.2.stores = before.recorded.stores.after (callsOfChecks ++ callsOfPlan) ∧
          List.Forall₂ (Task.Asks target records) checks callsOfChecks ∧
          List.Forall₂ (Task.Asks target records) done callsOfPlan ∧
          checks <+: settings.checkTasks plan ∧ done <+: plan.tasks ∧
          EndsWithTasks (settings.checkTasks plan) plan.tasks checks done records run.1 := by
  intro plan run recorded records
  have like : Session.Like (fun w w' => w.stores = w') before.recorded before := ⟨rfl, rfl, rfl⟩
  obtain ⟨ends, sessions⟩ :=
    corresponds_execute answerAlike_recorded settings schema plan _ _ like
  have same : recorded.1 = run.1 := endAlike_eq_iff.mp ends
  refine ⟨steps_build schemaName source target, same, sessions.stores, ?_⟩
  rw [← same]
  have read : settings.recordsRead plan before.recorded = records :=
    recordsRead_recorded settings plan before
  obtain ⟨checks, callsOfChecks, checked, asked, front, ended⟩ :=
    exists_checks settings plan records before.recorded
  rcases rows : (settings.checkSourceRows plan).exec before.recorded with ⟨e | _, mid⟩
  · rw [rows] at checked ended
    have whole : recorded = (.error e, mid) := Settings.exec_execute_of_refused rows
    rw [whole]
    refine ⟨checks, [], callsOfChecks, [], ?_, asked, .nil, front, List.nil_prefix, ended⟩
    rw [List.append_nil]
    exact checked
  · rw [rows] at checked ended
    -- What is written is made of what is read after the check, which may have changed the stores.
    have readFrom : ∀ rs, ((readRecords source).exec
        { mid with sink := .start settings.trace }).1 = .ok rs → rs = records := by
      intro rs readAs
      rw [← read, Settings.recordsRead, rows]
      exact (congrArg (fun result => result.toOption.getD []) readAs).symm
    obtain ⟨done, callsOfPlan, made, askedFor, front', complete⟩ :=
      carriesOut_convert (m := target) readFrom
    rcases converted : (convert source target settings.trace).exec mid with ⟨e | outcome, after⟩
    · rw [converted] at made
      have whole : recorded = (.error (.conversion e), after) :=
        Settings.exec_execute_of_error rows converted
      rw [whole]
      refine ⟨checks, done, callsOfChecks, callsOfPlan, ?_, asked, askedFor, front, front', ended⟩
      rw [made, checked, Recorded.after_append]
    · rw [converted] at made complete
      have whole : recorded = (settings.verdict schema outcome, after) :=
        Settings.exec_execute_of_ok rows converted
      rw [whole]
      refine ⟨checks, done, callsOfChecks, callsOfPlan, ?_, asked, askedFor, front, front', ?_⟩
      · rw [made, checked, Recorded.after_append]
      · unfold Settings.verdict
        split
        · exact ⟨ended, complete rfl⟩
        · obtain ⟨_, readAs, -⟩ := exists_of_convert_eq_ok converted
          exact ⟨ended, complete rfl, readFrom outcome.records (congrArg Prod.fst readAs)⟩

end Crossmap
