import Crossmap.Proofs.Conversion.Answers
import Crossmap.Proofs.Conversion.Delivery
import Crossmap.Proofs.Conversion.RunPairs
import Crossmap.Proofs.Conversion.Supervision

/-! # Checks are gates

A source answers always alike if no read has any bearing on the answers to the reads that follow
(`AnswersAlways`). With such a source the checks of a conversion let it pass unchanged or refuse it:
a conversion under any settings does what it does without checks, or fails before it has touched the
target, or fails because of the records that it has made (`convert_gated`).
-/

namespace Crossmap

open Mapping

variable {σ τ γ : Type} [RecordSource σ] {answer : String → Filter → Except StorageError (List Row)}

/-! ## Sources that answer always alike -/

/-- What a source comes to by reads. -/
def afterReads (s : σ) (reads : List (String × Filter)) : σ :=
  reads.foldl (fun s r => (RecordSource.read r.1 r.2 s).2) s

/-- Whether a source gives the answers of a function, whatever has been read before. -/
def AnswersAlways (answer : String → Filter → Except StorageError (List Row)) (s : σ) : Prop :=
  ∀ earlier object filter,
    (RecordSource.read object filter (afterReads s earlier)).1 = answer object filter

/-- A source that answers always alike does so now. -/
theorem AnswersAlways.now {s : σ} (always : AnswersAlways answer s) (object : String)
    (filter : Filter) : (RecordSource.read object filter s).1 = answer object filter :=
  always [] object filter

/-- A source that answers always alike does so after a read. -/
theorem AnswersAlways.later {s : σ} (always : AnswersAlways answer s) (object : String)
    (filter : Filter) : AnswersAlways answer (RecordSource.read object filter s).2 :=
  fun earlier => always ((object, filter) :: earlier)

/-- Rows in memory are given alike whenever they are asked for. -/
theorem answersAlways_memory (s : MemoryStore) :
    AnswersAlways
      (fun object filter => .ok ((s.rows object).filter fun row => row.satisfies filter)) s := by
  intro earlier
  have unchanged : afterReads s earlier = s := by
    induction earlier with
    | nil => rfl
    | cons _ rest ih => exact ih
  rw [unchanged]
  intro object filter
  rfl

/-- Endpoints with one target whose sources give the same answers. -/
structure AnswerPair (answer : String → Filter → Except StorageError (List Row))
    (e e' : Endpoints σ τ) : Prop where
  first : AnswersAlways answer e.source
  second : AnswersAlways answer e'.source
  target : e.target = e'.target

/-- Endpoints whose sources give the same answers, and which share their target, answer alike. -/
theorem answerAlike_answerPair [RecordTarget τ] :
    AnswerAlike (AnswerPair answer : Endpoints σ τ → Endpoints σ τ → Prop) where
  read := by
    intro object filter e e' pair
    have answers : (RecordSource.read object filter e.source).1 =
        (RecordSource.read object filter e'.source).1 := by
      rw [pair.first.now, pair.second.now]
    exact ⟨answers, pair.first.later object filter, pair.second.later object filter, pair.target⟩
  write := by
    intro object rows e e' pair
    have same := congrArg (RecordTarget.write object rows) pair.target
    have accepted : (RecordTarget.write object rows e.target).1 =
        (RecordTarget.write object rows e'.target).1 := congrArg Prod.fst same
    exact ⟨accepted, pair.first, pair.second, congrArg Prod.snd same⟩

/-! ## Runs that only ask the source -/

namespace Run

variable {α β δ : Type} {asked : List Reading}

/-- A run that asks the source for readings and does nothing else. It fails only where one of the
answers is a failure. -/
def OnlyAsks (answer : String → Filter → Except StorageError (List Row)) (asked : List Reading)
    (r : Run (Endpoints σ τ) γ StorageError α) : Prop :=
  ∀ s, AnswersAlways answer s.stores.source →
    (∃ source, AnswersAlways answer source ∧
      (r.exec s).2 = { s with stores := { s.stores with source := source } }) ∧
    ((∀ q ∈ asked, (answer q.object q.filter).isOk = true) → (r.exec s).1.isOk = true)

theorem onlyAsks_pure (a : α) :
    (pure a : Run (Endpoints σ τ) γ StorageError α).OnlyAsks answer asked :=
  fun s always => ⟨⟨s.stores.source, always, rfl⟩, fun _ => rfl⟩

/-- Reading for one of the readings asks for nothing else. -/
theorem onlyAsks_readRows {q : Reading} (member : q ∈ asked) :
    (readRows q.object q.filter : Run (Endpoints σ τ) γ StorageError _).OnlyAsks answer asked := by
  intro s always
  refine ⟨⟨_, always.later q.object q.filter, rfl⟩, ?_⟩
  intro fine
  have now := always.now q.object q.filter
  exact (congrArg Except.isOk now).trans (fine q member)

/-- Runs in sequence ask for no more than either of them. -/
theorem OnlyAsks.bind {r : Run (Endpoints σ τ) γ StorageError α}
    {f : α → Run (Endpoints σ τ) γ StorageError β} (first : r.OnlyAsks answer asked)
    (next : ∀ a, (f a).OnlyAsks answer asked) : (r >>= f).OnlyAsks answer asked := by
  intro s always
  obtain ⟨⟨source, still, left⟩, ends⟩ := first s always
  rcases ended : r.exec s with ⟨e | a, mid⟩
  · rw [ended] at left ends
    rw [exec_bind_error ended]
    exact ⟨⟨source, still, left⟩, ends⟩
  · rw [ended] at left
    obtain rfl : mid = _ := left
    rw [exec_bind_ok ended]
    exact next a _ still

/-- Runs for the items of a list ask for no more than any of them. -/
theorem onlyAsks_mapM {f : δ → Run (Endpoints σ τ) γ StorageError α} {l : List δ}
    (steps : ∀ d ∈ l, (f d).OnlyAsks answer asked) : (l.mapM f).OnlyAsks answer asked := by
  induction l with
  | nil => exact onlyAsks_pure []
  | cons d rest ih =>
      rw [List.mapM_cons]
      apply (steps d List.mem_cons_self).bind
      intro a
      apply (ih fun d member => steps d (List.mem_cons_of_mem _ member)).bind
      intro as
      exact onlyAsks_pure (a :: as)

end Run

/-- Looking for missing columns only asks the source for what a conversion asks it for. -/
theorem onlyAsks_missingColumns (m : Model) :
    (missingColumns m : Run (Endpoints σ τ) γ StorageError _).OnlyAsks answer m.readings := by
  have data : ∀ d ∈ m.data, (dataRowFindings d : Run (Endpoints σ τ) γ _ _).OnlyAsks answer
      m.readings := by
    intro d member
    apply (Run.onlyAsks_readRows (Model.mem_readings_of_data member)).bind
    intro rows
    exact Run.onlyAsks_pure _
  have inspection : ∀ i ∈ m.inspections,
      (inspectedRowFindings i : Run (Endpoints σ τ) γ _ _).OnlyAsks answer m.readings := by
    intro i member
    apply (Run.onlyAsks_readRows (Model.mem_readings_of_inspection member)).bind
    intro rows
    exact Run.onlyAsks_pure _
  apply (Run.onlyAsks_mapM data).bind
  intro ofData
  apply (Run.onlyAsks_mapM inspection).bind
  intro ofInspections
  exact Run.onlyAsks_pure _

/-- Whatever was given was an answer of the source. -/
theorem Gives.isOk_answer {e e' : Endpoints σ τ} {rs : List Reading}
    {origins : List (Reading × Row)} (gives : Gives e rs origins e')
    (always : AnswersAlways answer e.source) :
    ∀ q ∈ rs, (answer q.object q.filter).isOk = true := by
  induction gives with
  | nothing => simp
  | @rows w w' w'' r rows rest origins given _ ih =>
      have answered : answer r.object r.filter = .ok rows := by
        rw [← always.now]
        exact congrArg Prod.fst given
      have left : (RecordSource.read r.object r.filter w.source).2 = w'.source :=
        congrArg (fun x => x.2.source) given
      have still := always.later r.object r.filter
      rw [left] at still
      intro q member
      rcases List.mem_cons.mp member with rfl | inRest
      · rw [answered]
        rfl
      · exact ih still q inRest

/-! ## Checked and unchecked conversions -/

/-- The settings with all checks switched off. -/
def Settings.unchecked (s : Settings) : Settings :=
  { s.withoutDataChecks with refuseUnfit := false }

/-- What the check of the source rows says when it finds something. -/
def Settings.rowVerdict (settings : Settings) (found : Except StorageError (List String)) :
    Except SupervisionError Unit :=
  if settings.checkSource then do
    let messages ← found.mapError .storage
    if messages.isEmpty then .ok () else .error (.unfitRows messages)
  else .ok ()

/-- What the checks say that come before a conversion: first that of the models, then that of the
source rows. -/
def Settings.entryVerdict (settings : Settings) (models : List String)
    (found : Except StorageError (List String)) : Except SupervisionError Unit :=
  if settings.refuseUnfit && !models.isEmpty then .error (.unfitModels models)
  else settings.rowVerdict found

/-- Models that do not fit are refused before the rows are looked at, and each check only if it is
switched on. -/
theorem Settings.entryVerdict_ok (settings : Settings) (models messages : List String) :
    settings.entryVerdict models (.ok messages) =
      if settings.refuseUnfit = true ∧ models ≠ [] then .error (.unfitModels models)
      else if settings.checkSource = true ∧ messages ≠ [] then .error (.unfitRows messages)
      else .ok () := by
  unfold entryVerdict rowVerdict
  cases models <;> cases messages <;> cases settings.refuseUnfit <;> cases settings.checkSource
    <;> rfl

/-- Records are refused if they are checked and something is found. -/
theorem Settings.verdict_eq (settings : Settings) (schema : Schema) (outcome : Outcome) :
    settings.verdict schema outcome =
      if settings.checkResult = true ∧ schema.checkRecords outcome.records ≠ [] then
        .error (.unfitRecords (schema.checkRecords outcome.records))
      else .ok outcome := by
  unfold verdict
  cases schema.checkRecords outcome.records <;> cases settings.checkResult <;> rfl

/-- The first of the checks that finds something decides how a conversion ends, and with what. -/
theorem Settings.verdicts_eq {α : Type} (settings : Settings) (schema : Schema)
    (models messages : List String) (outcome : Outcome) (before after : α) :
    (match settings.entryVerdict models (.ok messages) with
      | .error e => (.error e, before)
      | .ok _ => (settings.verdict schema outcome, after)) =
      if settings.refuseUnfit = true ∧ models ≠ [] then (.error (.unfitModels models), before)
      else if settings.checkSource = true ∧ messages ≠ [] then
        (.error (.unfitRows messages), before)
      else if settings.checkResult = true ∧ schema.checkRecords outcome.records ≠ [] then
        (.error (.unfitRecords (schema.checkRecords outcome.records)), after)
      else (.ok outcome, after) := by
  rw [entryVerdict_ok, verdict_eq]
  by_cases unfit : settings.refuseUnfit = true ∧ models ≠ []
  · rw [if_pos unfit, if_pos unfit]
  · rw [if_neg unfit, if_neg unfit]
    by_cases incomplete : settings.checkSource = true ∧ messages ≠ []
    · rw [if_pos incomplete, if_pos incomplete]
    · rw [if_neg incomplete, if_neg incomplete]
      by_cases refused :
          settings.checkResult = true ∧ schema.checkRecords outcome.records ≠ []
      · rw [if_pos refused, if_pos refused]
      · rw [if_neg refused, if_neg refused]

/-- Records that pass are left as they are. -/
theorem Settings.eq_of_verdict_eq_ok {settings : Settings} {schema : Schema}
    {outcome outcome' : Outcome} (passed : settings.verdict schema outcome = .ok outcome') :
    outcome = outcome' := by
  rw [verdict_eq] at passed
  split at passed
  · cases passed
  · exact Except.ok.inj passed

/-- What a session holds besides the source and the sink: the target, and the idents to come. -/
def Session.held (s : Session (Endpoints σ τ) γ) : τ × γ := (s.stores.target, s.idents)

/-- The check of the source rows leaves everything but the source as it was. -/
theorem exec_checkSourceRows_gated {before : Session (Endpoints σ τ) γ}
    (always : AnswersAlways answer before.stores.source) (settings : Settings) (plan : Plan) :
    ∃ mid, Session.Like (AnswerPair answer) mid before ∧
      (settings.checkSourceRows plan).exec before =
        (settings.rowVerdict ((missingColumns plan.sourceModel).exec before).1, mid) := by
  by_cases on : settings.checkSource = true
  · obtain ⟨⟨source, still, left⟩, -⟩ := onlyAsks_missingColumns plan.sourceModel before always
    have like : Session.Like (AnswerPair answer)
        ((missingColumns plan.sourceModel).exec before).2 before := by
      rw [left]
      exact ⟨⟨still, always, rfl⟩, rfl, rfl⟩
    refine ⟨_, like, ?_⟩
    unfold Settings.rowVerdict
    rw [if_pos on]
    rcases found : (missingColumns plan.sourceModel).exec before with ⟨e | messages, mid⟩
    · exact Settings.exec_checkSourceRows_of_error on found
    · exact Settings.exec_checkSourceRows_of_ok on found
  · have like : Session.Like (AnswerPair answer) before before := ⟨⟨always, always, rfl⟩, rfl, rfl⟩
    refine ⟨before, like, ?_⟩
    unfold Settings.rowVerdict
    rw [if_neg on]
    exact Settings.exec_checkSourceRows_of_off (Bool.eq_false_iff.mpr on) before

section Convert

variable [RecordTarget τ] [IdentSource γ]

/-- Without checks a conversion is what it is without supervision. -/
theorem Settings.exec_convert_unchecked (settings : Settings) (schemaName : String)
    (schema : Schema) (source target : Model) (before : Session (Endpoints σ τ) γ) :
    (settings.unchecked.convert schemaName schema source target).exec before =
      ((Crossmap.convert source target settings.trace).mapError .conversion).exec before := by
  have planned : settings.unchecked.plan schemaName schema source target =
      .ok (.build schemaName source target) := rfl
  rw [Settings.convert, Run.exec_bind, planned, Run.exec_ofExcept, Run.exec_mapError]
  have rows : (settings.unchecked.checkSourceRows (.build schemaName source target)).exec before =
      (.ok (), before) :=
    exec_checkSourceRows_of_off rfl before
  rcases converted : (Crossmap.convert source target settings.trace).exec before with
    ⟨e | outcome, after⟩
  · exact exec_execute_of_error rows converted
  · exact exec_execute_of_ok rows converted

/-- A plan is refused beforehand, and then everything but the source is as it was, or its conversion
goes on as it does without checks, and at last its records are judged. -/
theorem exec_execute_gated {before : Session (Endpoints σ τ) γ}
    (always : AnswersAlways answer before.stores.source) (settings : Settings) (schema : Schema)
    (plan : Plan) :
    let guarded := (settings.execute schema plan).exec before
    let free := ((Crossmap.convert plan.sourceModel plan.targetModel settings.trace).mapError
      SupervisionError.conversion).exec before
    match settings.rowVerdict ((missingColumns plan.sourceModel).exec before).1 with
    | .error e => guarded.1 = .error e ∧ guarded.2.held = before.held
    | .ok _ => guarded.1 = free.1 >>= settings.verdict schema ∧ guarded.2.held = free.2.held := by
  intro guarded free
  obtain ⟨mid, like, checked⟩ := exec_checkSourceRows_gated always settings plan
  cases rows : settings.rowVerdict ((missingColumns plan.sourceModel).exec before).1 with
  | error e =>
      rw [rows] at checked
      rw [show guarded = _ from Settings.exec_execute_of_refused checked]
      exact ⟨rfl, Prod.ext like.stores.target like.idents⟩
  | ok _ =>
      rw [rows] at checked
      obtain ⟨same, sessions⟩ := corresponds_convert answerAlike_answerPair plan.sourceModel
        plan.targetModel settings.trace mid before like
      rw [endAlike_eq_iff] at same
      have left :
          ((Crossmap.convert plan.sourceModel plan.targetModel settings.trace).exec mid).2.held =
            free.2.held := by
        rw [show free = _ from Run.exec_mapError _ _ before]
        exact Prod.ext sessions.stores.target sessions.idents
      have result : free.1 = ((Crossmap.convert plan.sourceModel plan.targetModel
          settings.trace).exec mid).1.mapError .conversion := by
        rw [show free = _ from Run.exec_mapError _ _ before, same]
      rw [result, ← left]
      rcases converted : (Crossmap.convert plan.sourceModel plan.targetModel settings.trace).exec
        mid with ⟨e | outcome, after⟩
      · rw [show guarded = _ from Settings.exec_execute_of_error checked converted]
        exact ⟨rfl, rfl⟩
      · rw [show guarded = _ from Settings.exec_execute_of_ok checked converted]
        exact ⟨rfl, rfl⟩

/-- A conversion is refused beforehand, and then everything but the source is as it was, or it goes
on as it does without checks, and at last its records are judged. -/
theorem exec_convert_gated {before : Session (Endpoints σ τ) γ}
    (always : AnswersAlways answer before.stores.source) (settings : Settings)
    (schemaName : String) (schema : Schema) (source target : Model) :
    let guarded := (settings.convert schemaName schema source target).exec before
    let free := (settings.unchecked.convert schemaName schema source target).exec before
    match settings.entryVerdict (source.check schema ++ target.check schema)
        ((missingColumns source).exec before).1 with
    | .error e => guarded.1 = .error e ∧ guarded.2.held = before.held
    | .ok _ => guarded.1 = free.1 >>= settings.verdict schema ∧ guarded.2.held = free.2.held := by
  intro guarded free
  rw [show free = _ from Settings.exec_convert_unchecked settings schemaName schema source target
    before]
  unfold Settings.entryVerdict
  by_cases unfit :
      (settings.refuseUnfit && !(source.check schema ++ target.check schema).isEmpty) = true
  · have planned : settings.plan schemaName schema source target =
        .error (.unfitModels (source.check schema ++ target.check schema)) := if_pos unfit
    have whole : guarded =
        (.error (.unfitModels (source.check schema ++ target.check schema)), before) :=
      Run.exec_bind_error (congrArg (·, before) planned)
    rw [if_pos unfit, whole]
    exact ⟨rfl, rfl⟩
  · have planned : settings.plan schemaName schema source target =
        .ok (.build schemaName source target) := if_neg unfit
    have whole :
        guarded = (settings.execute schema (.build schemaName source target)).exec before :=
      Run.exec_bind_ok (congrArg (·, before) planned)
    rw [if_neg unfit, whole]
    exact exec_execute_gated always settings schema (.build schemaName source target)

/-- Where a conversion ends well, the source has answered all that its rows are checked by. -/
theorem exists_missingColumns_eq_ok {before : Session (Endpoints σ τ) γ}
    (always : AnswersAlways answer before.stores.source) {source target : Model} {tracing : Bool}
    {outcome : Outcome}
    (ended : ((convert source target tracing).exec before).1 = .ok outcome) :
    ∃ messages, ((missingColumns source).exec before).1 = .ok messages := by
  obtain ⟨mid, read, -⟩ := exists_of_convert_eq_ok (Prod.ext ended rfl)
  obtain ⟨origins, gives, -⟩ := gives_of_readRecords read
  obtain ⟨-, ends⟩ := onlyAsks_missingColumns source before always
  exact exists_eq_ok_of_isOk (ends (gives.isOk_answer always))

/-- **Checks are gates.** Let the source answer always alike. A conversion that ends well under its
settings does without checks the same to the target and to the idents, and has the same outcome.
Where it ends well without checks, it ends under its settings with the first of these that applies:
the models are refused, the source rows are refused, the records are refused after all has been
written, or the same outcome. Where it fails without checks, it fails under its settings beforehand,
or in the same way. -/
theorem convert_gated {before : Session (Endpoints σ τ) γ}
    (always : AnswersAlways answer before.stores.source) (settings : Settings)
    (schemaName : String) (schema : Schema) (source target : Model) :
    let models := source.check schema ++ target.check schema
    let found := ((missingColumns source).exec before).1
    let guarded := (settings.convert schemaName schema source target).exec before
    let free := (settings.unchecked.convert schemaName schema source target).exec before
    (∀ outcome, guarded.1 = .ok outcome →
      free.1 = .ok outcome ∧ guarded.2.held = free.2.held) ∧
    (∀ outcome, free.1 = .ok outcome → ∃ messages, found = .ok messages ∧
      let records := schema.checkRecords outcome.records
      (guarded.1, guarded.2.held) =
        if settings.refuseUnfit = true ∧ models ≠ [] then
          (.error (.unfitModels models), before.held)
        else if settings.checkSource = true ∧ messages ≠ [] then
          (.error (.unfitRows messages), before.held)
        else if settings.checkResult = true ∧ records ≠ [] then
          (.error (.unfitRecords records), free.2.held)
        else (.ok outcome, free.2.held)) ∧
    ∀ e, free.1 = .error e →
      (∃ c, e = .conversion c) ∧
        ((∃ f, settings.entryVerdict models found = .error f ∧
            guarded.1 = .error f ∧ guarded.2.held = before.held) ∨
          guarded.1 = .error e ∧ guarded.2.held = free.2.held) := by
  intro models found guarded free
  have gated := exec_convert_gated always settings schemaName schema source target
  -- Without checks the conversion is bare, so its results tell what the checks are about.
  have freely : free.1 =
      ((Crossmap.convert source target settings.trace).exec before).1.mapError .conversion := by
    rw [show free = _ from Settings.exec_convert_unchecked settings schemaName schema source target
      before, Run.exec_mapError]
  change match settings.entryVerdict models found with
    | .error e => guarded.1 = .error e ∧ guarded.2.held = before.held
    | .ok _ => guarded.1 = free.1 >>= settings.verdict schema ∧ guarded.2.held = free.2.held
    at gated
  refine ⟨?_, ?_, ?_⟩
  · intro outcome ended
    cases entry : settings.entryVerdict models found with
    | error e =>
        rw [entry] at gated
        rw [gated.1] at ended
        cases ended
    | ok _ =>
        rw [entry] at gated
        obtain ⟨result, held⟩ := gated
        rw [ended] at result
        obtain ⟨outcome', unchecked, judged⟩ := bind_eq_ok_iff.mp result.symm
        rw [Settings.eq_of_verdict_eq_ok judged] at unchecked
        exact ⟨unchecked, held⟩
  · intro outcome ended
    have converted : ((convert source target settings.trace).exec before).1 = .ok outcome :=
      mapError_eq_ok_iff.mp (freely.symm.trans ended)
    -- A conversion that ends well has read its source, so the check of the rows was answered.
    obtain ⟨messages, answered⟩ := exists_missingColumns_eq_ok always converted
    refine ⟨messages, answered, ?_⟩
    intro records
    rw [show found = _ from answered] at gated
    rw [← settings.verdicts_eq schema models messages outcome before.held free.2.held]
    cases entry : settings.entryVerdict models (.ok messages) with
    | error f =>
        rw [entry] at gated
        exact Prod.ext gated.1 gated.2
    | ok _ =>
        rw [entry, ended] at gated
        exact Prod.ext gated.1 gated.2
  · intro e failed
    obtain ⟨c, -, rfl⟩ := mapError_eq_error_iff.mp (freely.symm.trans failed)
    refine ⟨⟨c, rfl⟩, ?_⟩
    cases entry : settings.entryVerdict models found with
    | error f =>
        rw [entry] at gated
        exact .inl ⟨f, rfl, gated⟩
    | ok _ =>
        rw [entry, failed] at gated
        exact .inr gated

end Convert

/-- A schema of plots that need an area. -/
def areaSchema : Schema :=
  Schema.empty.addClass <| (ClassDeclaration.bare "Plot").addAttribute
    { AttributeDeclaration.plain "area" "Real" with isMandatory := true }

/-- Plots without an area are refused when they have been written. -/
theorem convert_gated_plots :
    let guarded :=
      (Settings.standard.convert "Areas" areaSchema plotModel plotModel).exec plotSession
    let free :=
      (Settings.standard.unchecked.convert "Areas" areaSchema plotModel plotModel).exec plotSession
    (guarded.1, guarded.2.held) =
      (.error (.unfitRecords ["Mandatory attribute Plot.area is empty for ident 1",
        "Mandatory attribute Plot.area is empty for ident 2"]), free.2.held) := by
  have always := answersAlways_memory plotSession.stores.source
  have gated := (convert_gated always Settings.standard "Areas" areaSchema plotModel plotModel).2.1
  have freely : ((Settings.standard.unchecked.convert "Areas" areaSchema plotModel plotModel).exec
      plotSession).1 = .ok
        ⟨[.bare "Plot" "1", .bare "Plot" "2"], [], Dict.empty.insert "PLOTS" 4⟩ := by
    decide +kernel
  obtain ⟨messages, found, ended⟩ := gated _ freely
  have complete : ((missingColumns plotModel).exec plotSession).1 = .ok [] := by decide +kernel
  obtain rfl : [] = messages := Except.ok.inj (complete.symm.trans found)
  have fit : plotModel.check areaSchema ++ plotModel.check areaSchema = [] := by decide +kernel
  intro guarded free
  have wanting : areaSchema.checkRecords [.bare "Plot" "1", .bare "Plot" "2"] =
      ["Mandatory attribute Plot.area is empty for ident 1",
        "Mandatory attribute Plot.area is empty for ident 2"] := by decide +kernel
  rw [show (guarded.1, guarded.2.held) = _ from ended, fit, wanting, if_neg (by decide),
    if_neg (by decide), if_pos (by decide)]

end Crossmap
