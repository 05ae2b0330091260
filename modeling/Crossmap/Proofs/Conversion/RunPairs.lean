import Crossmap.Conversion.Supervised
import Crossmap.Proofs.Conversion.RunLaws

/-! # Two runs side by side

Two runs correspond under a relation of sessions if they take related sessions to related sessions,
and end with the same error or with related values (`Run.Corresponds`). Runs made of corresponding
steps correspond. Reading records corresponds to reading them under any relation of sessions whose
reads find rows with the same texts (`corresponds_readRecords_of_rows`) or are answered alike, and
the records differ as far as the idents do that are given out (`corresponds_readRecords`). Where the
stores answer alike and all else is equal, a whole conversion corresponds to itself and has one
outcome (`corresponds_convert`, `corresponds_execute`).
-/

namespace Crossmap

open Mapping

variable {ω ω' γ γ' : Type}

/-- Two results that are the same error, or values that are related. -/
inductive EndAlike {ε α α' : Type} (R : α → α' → Prop) : Except ε α → Except ε α' → Prop
  | failed (e : ε) : EndAlike R (.error e) (.error e)
  | ended {a : α} {a' : α'} (related : R a a') : EndAlike R (.ok a) (.ok a')

/-- Results that end alike up to equality are equal. -/
theorem endAlike_eq_iff {ε α : Type} {x y : Except ε α} : EndAlike Eq x y ↔ x = y := by
  constructor
  · intro alike
    cases alike with
    | failed e => rfl
    | ended same => rw [same]
  · rintro rfl
    cases x with
    | error e => exact .failed e
    | ok a => exact .ended rfl

namespace EndAlike

variable {ε ε' α α' β β' : Type} {R R' : α → α' → Prop} {Q : β → β' → Prop} {x : Except ε α}
  {x' : Except ε α'}

/-- Values that are related in a narrower sense are related in a wider one. -/
theorem mono (alike : EndAlike R x x') (more : ∀ a a', R a a' → R' a a') : EndAlike R' x x' := by
  cases alike with
  | failed e => exact .failed e
  | ended related => exact .ended (more _ _ related)

/-- Results that end alike still do so when their errors are reworded. -/
theorem mapError (alike : EndAlike R x x') (f : ε → ε') :
    EndAlike R (x.mapError f) (x'.mapError f) := by
  cases alike with
  | failed e => exact .failed (f e)
  | ended related => exact .ended related

/-- Results that end alike, each followed by what ends alike for related values, end alike together.
-/
theorem bind {f : α → Except ε β} {f' : α' → Except ε β'} (first : EndAlike R x x')
    (next : ∀ a a', R a a' → EndAlike Q (f a) (f' a')) : EndAlike Q (x >>= f) (x' >>= f') := by
  cases first with
  | failed e => exact .failed e
  | ended related => exact next _ _ related

end EndAlike

namespace Run

variable {ε ε' α α' β β' : Type} {S : Session ω γ → Session ω' γ' → Prop}
  {R : α → α' → Prop} {Q : β → β' → Prop}

/-- Two runs that take related sessions to related sessions, and end alike. -/
def Corresponds (S : Session ω γ → Session ω' γ' → Prop) (R : α → α' → Prop) (r : Run ω γ ε α)
    (r' : Run ω' γ' ε α') : Prop :=
  ∀ s s', S s s' → EndAlike R (r.exec s).1 (r'.exec s').1 ∧ S (r.exec s).2 (r'.exec s').2

/-- Values correspond if they are related. -/
theorem corresponds_pure {a : α} {a' : α'} (related : R a a') :
    (pure a : Run ω γ ε α).Corresponds S R (pure a' : Run ω' γ' ε α') :=
  fun _ _ sessions => ⟨.ended related, sessions⟩

theorem corresponds_throw (e : ε) :
    (throw e : Run ω γ ε α).Corresponds S R (throw e : Run ω' γ' ε α') :=
  fun _ _ sessions => ⟨.failed e, sessions⟩

/-- A result that is given corresponds to itself. -/
theorem corresponds_ofExcept (x : Except ε α) :
    (ofExcept x : Run ω γ ε α).Corresponds S Eq (ofExcept x : Run ω' γ' ε α) :=
  fun _ _ sessions => ⟨endAlike_eq_iff.mpr rfl, sessions⟩

/-- Runs that correspond still do so when their errors are reworded. -/
theorem Corresponds.mapError {r : Run ω γ ε α} {r' : Run ω' γ' ε α'}
    (corresponds : r.Corresponds S R r') (f : ε → ε') :
    (r.mapError f).Corresponds S R (r'.mapError f) := by
  intro s s' sessions
  obtain ⟨alike, related⟩ := corresponds s s' sessions
  rw [exec_mapError, exec_mapError]
  exact ⟨alike.mapError f, related⟩

/-- Runs that correspond, each followed by runs that correspond for related values, correspond
together. -/
theorem Corresponds.bind {r : Run ω γ ε α} {r' : Run ω' γ' ε α'} {f : α → Run ω γ ε β}
    {f' : α' → Run ω' γ' ε β'} (first : r.Corresponds S R r')
    (next : ∀ a a', R a a' → (f a).Corresponds S Q (f' a')) :
    (r >>= f).Corresponds S Q (r' >>= f') := by
  intro s s' sessions
  obtain ⟨alike, related⟩ := first s s' sessions
  rcases ended : r.exec s with ⟨x, mid⟩
  rcases ended' : r'.exec s' with ⟨x', mid'⟩
  rw [ended, ended'] at alike related
  cases alike with
  | failed e =>
      rw [exec_bind_error ended, exec_bind_error ended']
      exact ⟨.failed e, related⟩
  | ended values =>
      rw [exec_bind_ok ended, exec_bind_ok ended']
      exact next _ _ values mid mid' related

/-- Runs whose results are related in a narrower sense correspond in a wider one. -/
theorem Corresponds.mono {r : Run ω γ ε α} {r' : Run ω' γ' ε α'} {R' : α → α' → Prop}
    (corresponds : r.Corresponds S R r') (more : ∀ a a', R a a' → R' a a') :
    r.Corresponds S R' r' := by
  intro s s' sessions
  obtain ⟨alike, related⟩ := corresponds s s' sessions
  exact ⟨alike.mono more, related⟩

/-- Lists of related things, each a step that corresponds to that of its partner. -/
theorem corresponds_mapM_of_forall₂ {δ δ' : Type} {V : δ → δ' → Prop} {f : δ → Run ω γ ε α}
    {f' : δ' → Run ω' γ' ε α'} (steps : ∀ d d', V d d' → (f d).Corresponds S R (f' d'))
    {l : List δ} {l' : List δ'} (related : List.Forall₂ V l l') :
    (l.mapM f).Corresponds S (List.Forall₂ R) (l'.mapM f') := by
  induction related with
  | nil => exact corresponds_pure .nil
  | cons first _ ih =>
      rw [List.mapM_cons, List.mapM_cons]
      apply (steps _ _ first).bind
      intro a a' head
      apply ih.bind
      intro as as' tail
      exact corresponds_pure (.cons head tail)

/-- Runs for the items of one list correspond, and end with values that are related one by one. -/
theorem corresponds_mapM {δ : Type} {f : δ → Run ω γ ε α} {f' : δ → Run ω' γ' ε α'}
    (steps : ∀ d, (f d).Corresponds S R (f' d)) (l : List δ) :
    (l.mapM f).Corresponds S (List.Forall₂ R) (l.mapM f') := by
  apply corresponds_mapM_of_forall₂ (V := Eq)
  · rintro d _ rfl
    exact steps d
  · rw [List.forall₂_eq_eq_eq]

/-- Folds over one list whose steps correspond do so when they begin with related values. -/
theorem corresponds_foldlM {δ : Type} {f : α → δ → Run ω γ ε α} {f' : α' → δ → Run ω' γ' ε α'}
    (steps : ∀ d a a', R a a' → (f a d).Corresponds S R (f' a' d)) (l : List δ) {a : α} {a' : α'}
    (related : R a a') : (l.foldlM f a).Corresponds S R (l.foldlM f' a') := by
  induction l generalizing a a' with
  | nil => exact corresponds_pure related
  | cons d rest ih =>
      rw [List.foldlM_cons, List.foldlM_cons]
      apply (steps d a a' related).bind
      intro b b' head
      exact ih head

/-- Lists of corresponding steps whose values are equal have equal values. -/
theorem corresponds_mapM_eq {δ : Type} {f : δ → Run ω γ ε α} {f' : δ → Run ω' γ' ε α}
    (steps : ∀ d, (f d).Corresponds S Eq (f' d)) (l : List δ) :
    (l.mapM f).Corresponds S Eq (l.mapM f') := by
  apply (corresponds_mapM steps l).mono
  intro as as' equal
  exact List.forall₂_eq_eq_eq ▸ equal

end Run

/-! ## Reading records -/

/-- A record that is another one but for its ident, and the idents are related. -/
def Record.IsUpTo (I : String → String → Prop) (r r' : Record) : Prop :=
  ∃ ident, I r.ident ident ∧ r' = { r with ident := ident }

/-- A record that is another one up to an equal ident is that record. -/
theorem Record.eq_of_isUpTo {r r' : Record} (upTo : r.IsUpTo Eq r') : r = r' := by
  obtain ⟨ident, rfl, rfl⟩ := upTo
  rfl

/-- Sessions in which idents that are given out are related, and reports about records with related
idents leave related sessions. -/
structure StepAlike [IdentSource γ] [IdentSource γ'] (S : Session ω γ → Session ω' γ' → Prop)
    (I : String → String → Prop) : Prop where
  fresh : (Run.nextIdent : Run ω γ ConversionError String).Corresponds S I
    (Run.nextIdent : Run ω' γ' ConversionError String)
  same : ∀ ident, I ident ident
  event : ∀ (e : TraceEvent) ident, I e.ident ident →
    (Run.report e : Run ω γ ConversionError Unit).Corresponds S Eq
      (Run.report { e with ident := ident } : Run ω' γ' ConversionError Unit)

/-- Sessions in which reads are answered alike, idents that are given out are related, and reports
about records with related idents leave related sessions. -/
structure ReadAlike [RecordSource ω] [RecordSource ω'] [IdentSource γ] [IdentSource γ']
    (S : Session ω γ → Session ω' γ' → Prop) (I : String → String → Prop) : Prop where
  rows : ∀ object filter, (Run.readRows object filter : Run ω γ StorageError _).Corresponds S Eq
    (Run.readRows object filter : Run ω' γ' StorageError _)
  fresh : (Run.nextIdent : Run ω γ ConversionError String).Corresponds S I
    (Run.nextIdent : Run ω' γ' ConversionError String)
  same : ∀ ident, I ident ident
  event : ∀ (e : TraceEvent) ident, I e.ident ident →
    (Run.report e : Run ω γ ConversionError Unit).Corresponds S Eq
      (Run.report { e with ident := ident } : Run ω' γ' ConversionError Unit)

section Read

variable [IdentSource γ] [IdentSource γ'] {S : Session ω γ → Session ω' γ' → Prop}
  {I : String → String → Prop}

/-- Sessions that read alike take alike the steps that read nothing. -/
theorem ReadAlike.steps [RecordSource ω] [RecordSource ω'] (alike : ReadAlike S I) :
    StepAlike S I :=
  ⟨alike.fresh, alike.same, alike.event⟩

/-- The idents of one row are related, be they taken from a column or given out. -/
theorem corresponds_identOf (alike : StepAlike S I) (row : Row) (identColumn : Option String)
    (object : String) :
    (identOf row identColumn object : Run ω γ ConversionError String).Corresponds S I
      (identOf row identColumn object : Run ω' γ' ConversionError String) := by
  cases identColumn with
  | none => exact alike.fresh
  | some column =>
      rw [identOf, identOf]
      cases row.text? column with
      | none => exact Run.corresponds_throw _
      | some ident => exact Run.corresponds_pure (alike.same ident)

/-- Reading one column into records that differ in their idents leaves them differing in nothing
else. -/
theorem corresponds_readColumn (alike : StepAlike S I) (m : Model) (row : Row) (detail : String)
    (c : Column) {r r' : Record} (upTo : r.IsUpTo I r') :
    (readColumn m row detail r c : Run ω γ ConversionError Record).Corresponds S (Record.IsUpTo I)
      (readColumn m row detail r' c : Run ω' γ' ConversionError Record) := by
  obtain ⟨ident, related, rfl⟩ := upTo
  apply (Run.corresponds_ofExcept _).bind
  rintro value _ rfl
  apply (alike.event ⟨.read, r.className, r.ident, c.sourceColumn, c.targetPath, value, detail⟩
    ident related).bind
  intro _ _ _
  cases value with
  | none => exact Run.corresponds_pure ⟨ident, related, rfl⟩
  | some value => exact Run.corresponds_pure ⟨ident, related, rfl⟩

/-- Reading columns into records that differ in their idents leaves them differing in nothing else.
-/
theorem corresponds_readColumns (alike : StepAlike S I) (m : Model) (row : Row) (detail : String)
    (columns : List Column) {r r' : Record} (upTo : r.IsUpTo I r') :
    (readColumns m row detail columns r : Run ω γ ConversionError Record).Corresponds S
      (Record.IsUpTo I) (readColumns m row detail columns r' : Run ω' γ' ConversionError Record) :=
  Run.corresponds_foldlM (fun c _ _ => corresponds_readColumn alike m row detail c) columns upTo

/-- The records of one row differ in nothing but their related idents. -/
theorem corresponds_readDataRow (alike : StepAlike S I) (m : Model) (d : DataDeclaration)
    (row : Row) :
    (readDataRow m d row : Run ω γ ConversionError Record).Corresponds S (Record.IsUpTo I)
      (readDataRow m d row : Run ω' γ' ConversionError Record) := by
  apply (corresponds_identOf alike row d.identColumn d.object).bind
  intro ident ident' related
  exact corresponds_readColumns alike m row _ d.columns ⟨ident', related, rfl⟩

/-- The records of one inspected row differ in nothing but their related idents. -/
theorem corresponds_inspectRow (alike : StepAlike S I) (m : Model) (i : Inspection) (row : Row) :
    (inspectRow m i row : Run ω γ ConversionError Record).Corresponds S (Record.IsUpTo I)
      (inspectRow m i row : Run ω' γ' ConversionError Record) := by
  apply (corresponds_identOf alike row i.identColumn i.object).bind
  intro ident ident' related
  apply (Run.corresponds_ofExcept _).bind
  rintro structAttr _ rfl
  apply (Run.corresponds_ofExcept _).bind
  rintro chosen _ rfl
  exact corresponds_readColumns alike m row _ i.columns ⟨ident', related, rfl⟩

omit [IdentSource γ] in
/-- Columns are read alike from rows that have the same texts in them. -/
theorem readColumns_congr (m : Model) {row row' : Row} {columns : List Column}
    (texts : ∀ c ∈ columns, row.text? c.sourceColumn = row'.text? c.sourceColumn) (detail : String)
    (record : Record) :
    (readColumns m row detail columns record : Run ω γ ConversionError Record) =
      readColumns m row' detail columns record := by
  induction columns generalizing record with
  | nil => rfl
  | cons c rest ih =>
      obtain ⟨first, others⟩ := List.forall_mem_cons.mp texts
      have step : (readColumn m row detail record c : Run ω γ ConversionError Record) =
          readColumn m row' detail record c := by
        rw [readColumn, readColumn, first]
      have further (record : Record) :
          rest.foldlM (readColumn m row detail) record =
            (rest.foldlM (readColumn m row' detail) record : Run ω γ ConversionError Record) :=
        ih others record
      rw [readColumns, readColumns, List.foldlM_cons, List.foldlM_cons, step]
      simp only [further]

/-- The ident of a row depends on the text in its ident column alone. -/
theorem identOf_congr {row row' : Row} {identColumn : Option String}
    (texts : ∀ column ∈ identColumn, row.text? column = row'.text? column) (object : String) :
    (identOf row identColumn object : Run ω γ ConversionError String) =
      identOf row' identColumn object := by
  cases identColumn with
  | none => rfl
  | some column => rw [identOf, identOf, texts column rfl]

/-- The record of a row is a matter of the texts in the columns that are declared. -/
theorem readDataRow_congr (m : Model) {d : DataDeclaration} {row row' : Row}
    (ident : ∀ column ∈ d.identColumn, row.text? column = row'.text? column)
    (columns : ∀ column ∈ d.columnsRead, row.text? column = row'.text? column) :
    (readDataRow m d row : Run ω γ ConversionError Record) = readDataRow m d row' := by
  have texts : ∀ c ∈ d.columns, row.text? c.sourceColumn = row'.text? c.sourceColumn :=
    fun c member => columns _ (List.mem_map_of_mem member)
  rw [readDataRow, readDataRow, identOf_congr ident]
  simp only [readColumns_congr m texts]

/-- A text is looked up alike in rows that have the same text in its column. -/
theorem textIn?_congr {row row' : Row} {column : Option String}
    (texts : ∀ name ∈ column.toList, row.text? name = row'.text? name) :
    textIn? row column = textIn? row' column := by
  cases column with
  | none => rfl
  | some name => exact texts name List.mem_cons_self

/-- Rows with the same texts in the columns that an inspection reads are inspected alike. -/
theorem inspectRow_congr (m : Model) {i : Inspection} {row row' : Row}
    (ident : ∀ column ∈ i.identColumn, row.text? column = row'.text? column)
    (columns : ∀ column ∈ i.columnsRead, row.text? column = row'.text? column) :
    (inspectRow m i row : Run ω γ ConversionError Record) = inspectRow m i row' := by
  simp only [Inspection.columnsRead, List.forall_mem_append, List.forall_mem_map] at columns
  obtain ⟨⟨⟨parent, role⟩, chosen⟩, texts⟩ := columns
  rw [inspectRow, inspectRow, identOf_congr ident, textIn?_congr parent, textIn?_congr role,
    textIn?_congr chosen]
  simp only [readColumns_congr m texts]

variable [RecordSource ω] [RecordSource ω']

/-- Whatever idents are given out, and whatever rows with the same texts are found, reading fails
with the same error or reads records that are equal up to these idents. -/
theorem corresponds_readRecords_of_rows (alike : StepAlike S I) {V : Row → Row → Prop}
    (texts : ∀ row row', V row row' → row.text? = row'.text?)
    (rows : ∀ object filter, (Run.readRows object filter : Run ω γ StorageError _).Corresponds S
      (List.Forall₂ V) (Run.readRows object filter : Run ω' γ' StorageError _)) (m : Model) :
    (readRecords m : Run ω γ ConversionError (List Record)).Corresponds S
      (List.Forall₂ (Record.IsUpTo I))
      (readRecords m : Run ω' γ' ConversionError (List Record)) := by
  have data (d : DataDeclaration) : (readData m d : Run ω γ ConversionError _).Corresponds S
      (List.Forall₂ (Record.IsUpTo I)) (readData m d : Run ω' γ' ConversionError _) := by
    apply ((rows d.object d.filter).mapError ConversionError.storage).bind
    intro found found' related
    refine Run.corresponds_mapM_of_forall₂ (fun row row' same => ?_) related
    have told (column : String) := congrFun (texts row row' same) column
    rw [readDataRow_congr m (fun column _ => told column) fun column _ => told column]
    exact corresponds_readDataRow alike m d row'
  have inspection (i : Inspection) : (inspect m i : Run ω γ ConversionError _).Corresponds S
      (List.Forall₂ (Record.IsUpTo I)) (inspect m i : Run ω' γ' ConversionError _) := by
    apply ((rows i.object .empty).mapError ConversionError.storage).bind
    intro found found' related
    refine Run.corresponds_mapM_of_forall₂ (fun row row' same => ?_) related
    have told (column : String) := congrFun (texts row row' same) column
    rw [inspectRow_congr m (fun column _ => told column) fun column _ => told column]
    exact corresponds_inspectRow alike m i row'
  apply (Run.corresponds_mapM data m.data).bind
  intro ofData ofData' dataRelated
  apply (Run.corresponds_mapM inspection m.inspections).bind
  intro ofInspections ofInspections' inspectionsRelated
  apply Run.corresponds_pure
  exact List.rel_append (List.rel_flatten dataRelated) (List.rel_flatten inspectionsRelated)

/-- Whatever idents are given out, reading fails with the same error or reads records that are equal
up to these idents. -/
theorem corresponds_readRecords (alike : ReadAlike S I) (m : Model) :
    (readRecords m : Run ω γ ConversionError (List Record)).Corresponds S
      (List.Forall₂ (Record.IsUpTo I))
      (readRecords m : Run ω' γ' ConversionError (List Record)) := by
  refine corresponds_readRecords_of_rows (V := Eq) alike.steps ?_ ?_ m
  · rintro row _ rfl
    rfl
  · intro object filter
    rw [List.forall₂_eq_eq_eq]
    exact alike.rows object filter

omit [IdentSource γ] [IdentSource γ'] [RecordSource ω] [RecordSource ω'] in

/-- Where the same idents are given out, records that are equal up to idents are equal. -/
theorem Run.Corresponds.eq_of_isUpTo {ε : Type} {r : Run ω γ ε (List Record)}
    {r' : Run ω' γ' ε (List Record)}
    (corresponds : r.Corresponds S (List.Forall₂ (Record.IsUpTo Eq)) r') :
    r.Corresponds S Eq r' := by
  apply corresponds.mono
  intro records records' upTo
  have equal := upTo.imp fun _ _ => Record.eq_of_isUpTo
  exact List.forall₂_eq_eq_eq ▸ equal

/-- Where equal idents are given out, the same records are read. -/
theorem corresponds_readRecords_eq (alike : ReadAlike S Eq) (m : Model) :
    (readRecords m : Run ω γ ConversionError (List Record)).Corresponds S Eq
      (readRecords m : Run ω' γ' ConversionError (List Record)) :=
  (corresponds_readRecords alike m).eq_of_isUpTo

end Read

/-! ## Checking source rows -/

/-- Where rows are found that lack the same columns, the same messages are given. -/
theorem corresponds_missingColumns_of_rows [RecordSource ω] [RecordSource ω']
    {S : Session ω γ → Session ω' γ' → Prop} {V : Row → Row → Prop}
    (columns : ∀ row row', V row row' → row.hasColumn = row'.hasColumn)
    (rows : ∀ object filter, (Run.readRows object filter : Run ω γ StorageError _).Corresponds S
      (List.Forall₂ V) (Run.readRows object filter : Run ω' γ' StorageError _)) (m : Model) :
    (missingColumns m : Run ω γ StorageError (List String)).Corresponds S Eq
      (missingColumns m : Run ω' γ' StorageError (List String)) := by
  have findings (object : String) (filter : Filter) (identColumn : Option String)
      (names : List String) :
      (Run.readRows object filter >>= fun rows =>
        pure (rows.flatMap (Row.findings object identColumn names)) :
          Run ω γ StorageError (List RowFinding)).Corresponds S Eq
        (Run.readRows object filter >>= fun rows =>
          pure (rows.flatMap (Row.findings object identColumn names)) :
            Run ω' γ' StorageError (List RowFinding)) := by
    apply (rows object filter).bind
    intro found found' related
    apply Run.corresponds_pure
    induction related with
    | nil => rfl
    | cons same _ ih =>
        rw [List.flatMap_cons, List.flatMap_cons, ih, Row.findings, Row.findings,
          columns _ _ same]
  apply (Run.corresponds_mapM_eq (fun d => findings d.object d.filter d.identColumn d.columnsRead)
    m.data).bind
  rintro ofData _ rfl
  apply (Run.corresponds_mapM_eq (fun i => findings i.object .empty i.identColumn i.columnsRead)
    m.inspections).bind
  rintro ofInspections _ rfl
  exact Run.corresponds_pure rfl

/-! ## Conversions between stores that answer alike -/

/-- Sessions with related stores that are otherwise equal. -/
structure Session.Like (W : ω → ω' → Prop) (s : Session ω γ) (s' : Session ω' γ) : Prop where
  stores : W s.stores s'.stores
  idents : s.idents = s'.idents
  sink : s.sink = s'.sink

/-- Stores that give the same answers and remain related. -/
structure AnswerAlike [RecordSource ω] [RecordTarget ω] [RecordSource ω'] [RecordTarget ω']
    (W : ω → ω' → Prop) : Prop where
  read : ∀ object filter w w', W w w' →
    (RecordSource.read object filter w).1 = (RecordSource.read object filter w').1 ∧
      W (RecordSource.read object filter w).2 (RecordSource.read object filter w').2
  write : ∀ object rows w w', W w w' →
    (RecordTarget.write object rows w).1 = (RecordTarget.write object rows w').1 ∧
      W (RecordTarget.write object rows w).2 (RecordTarget.write object rows w').2

section Steps

variable {W : ω → ω' → Prop}

/-- An event reaches sinks that are equal, which remain so. -/
theorem corresponds_report {ε : Type} (e : TraceEvent) :
    (Run.report e : Run ω γ ε Unit).Corresponds (Session.Like W) Eq
      (Run.report e : Run ω' γ ε Unit) := by
  intro s s' like
  refine ⟨.ended rfl, like.stores, like.idents, ?_⟩
  exact congrArg (TraceSink.receive e) like.sink

/-- Sessions that differ in their stores alone give out the same idents. -/
theorem stepAlike_like [IdentSource γ] :
    StepAlike (Session.Like W : Session ω γ → Session ω' γ → Prop) Eq where
  fresh := by
    intro s s' like
    have idents : IdentSource.next s.idents = IdentSource.next s'.idents :=
      congrArg IdentSource.next like.idents
    exact ⟨.ended (congrArg Prod.fst idents), like.stores, congrArg Prod.snd idents, like.sink⟩
  same := fun _ => rfl
  event := by
    rintro e _ rfl
    exact corresponds_report e

/-- A refusal is the same in both sessions. -/
theorem corresponds_refuse (error : List String → SupervisionError) (messages : List String) :
    (Settings.refuse error messages : Run ω γ SupervisionError Unit).Corresponds (Session.Like W) Eq
      (Settings.refuse error messages : Run ω' γ SupervisionError Unit) := by
  unfold Settings.refuse
  by_cases empty : messages.isEmpty = true
  · rw [if_pos empty, if_pos empty]
    exact Run.corresponds_pure rfl
  · rw [if_neg empty, if_neg empty]
    exact Run.corresponds_throw _

end Steps

section Convert

variable [RecordSource ω] [RecordTarget ω] [RecordSource ω'] [RecordTarget ω']
  {W : ω → ω' → Prop}

/-- Stores that answer alike give the same rows. -/
theorem AnswerAlike.readRows (alike : AnswerAlike W) (object : String) (filter : Filter) :
    (Run.readRows object filter : Run ω γ StorageError _).Corresponds (Session.Like W) Eq
      (Run.readRows object filter : Run ω' γ StorageError _) := by
  intro s s' like
  obtain ⟨answers, stores⟩ := alike.read object filter _ _ like.stores
  exact ⟨endAlike_eq_iff.mpr answers, stores, like.idents, like.sink⟩

/-- Stores that answer alike accept or refuse the same rows. -/
theorem AnswerAlike.writeRows (alike : AnswerAlike W) (object : String) (rows : List Row) :
    (Run.writeRows object rows : Run ω γ StorageError _).Corresponds (Session.Like W) Eq
      (Run.writeRows object rows : Run ω' γ StorageError _) := by
  intro s s' like
  obtain ⟨answers, stores⟩ := alike.write object rows _ _ like.stores
  exact ⟨endAlike_eq_iff.mpr answers, stores, like.idents, like.sink⟩

/-- Writing records ends alike where the stores answer alike. -/
theorem corresponds_writeRecords (alike : AnswerAlike W) (m : Model) (records : List Record) :
    (writeRecords m records : Run ω γ ConversionError _).Corresponds (Session.Like W) Eq
      (writeRecords m records : Run ω' γ ConversionError _) := by
  have row (d : DataDeclaration) (record : Record) :
      (writeRow m d record : Run ω γ ConversionError Row).Corresponds (Session.Like W) Eq
        (writeRow m d record : Run ω' γ ConversionError Row) := by
    refine Run.corresponds_foldlM ?_ d.columns rfl
    rintro c row _ rfl
    apply (Run.corresponds_ofExcept _).bind
    rintro cell _ rfl
    apply (corresponds_report _).bind
    intro _ _ _
    exact Run.corresponds_pure rfl
  refine Run.corresponds_foldlM ?_ m.data rfl
  rintro d counts _ rfl
  apply (Run.corresponds_mapM_eq (row d) (recordsFor d records)).bind
  rintro rows _ rfl
  apply ((alike.writeRows d.object rows).mapError ConversionError.storage).bind
  intro _ _ _
  exact Run.corresponds_pure rfl

/-- Source rows are found to lack the same columns where the stores answer alike. -/
theorem corresponds_missingColumns (alike : AnswerAlike W) (m : Model) :
    (missingColumns m : Run ω γ StorageError (List String)).Corresponds (Session.Like W) Eq
      (missingColumns m : Run ω' γ StorageError (List String)) := by
  refine corresponds_missingColumns_of_rows (V := Eq) ?_ ?_ m
  · rintro row _ rfl
    rfl
  · intro object filter
    rw [List.forall₂_eq_eq_eq]
    exact alike.readRows object filter

/-- Source rows pass or fail the check alike where the stores answer alike. -/
theorem corresponds_checkSourceRows (alike : AnswerAlike W) (settings : Settings) (plan : Plan) :
    (settings.checkSourceRows plan : Run ω γ SupervisionError Unit).Corresponds (Session.Like W) Eq
      (settings.checkSourceRows plan : Run ω' γ SupervisionError Unit) := by
  unfold Settings.checkSourceRows
  by_cases checked : settings.checkSource = true
  · rw [if_pos checked, if_pos checked]
    apply ((corresponds_missingColumns alike plan.sourceModel).mapError
      SupervisionError.storage).bind
    rintro messages _ rfl
    exact corresponds_refuse _ messages
  · rw [if_neg checked, if_neg checked]
    exact Run.corresponds_pure rfl

variable [IdentSource γ]

/-- Sessions whose stores answer alike, and which are otherwise equal, read alike. -/
theorem AnswerAlike.readAlike (alike : AnswerAlike W) :
    ReadAlike (Session.Like W : Session ω γ → Session ω' γ → Prop) Eq :=
  have steps : StepAlike (Session.Like W : Session ω γ → Session ω' γ → Prop) Eq := stepAlike_like
  ⟨alike.readRows, steps.fresh, steps.same, steps.event⟩

/-- **A conversion depends on the answers of its stores alone.** Where they answer alike it ends
alike, with one outcome. -/
theorem corresponds_convert (alike : AnswerAlike W) (source target : Model) (tracing : Bool) :
    (convert source target tracing : Run ω γ ConversionError _).Corresponds (Session.Like W) Eq
      (convert source target tracing : Run ω' γ ConversionError _) := by
  have started : (Run.startTrace tracing : Run ω γ ConversionError Unit).Corresponds
      (Session.Like W) Eq (Run.startTrace tracing : Run ω' γ ConversionError Unit) :=
    fun s s' like => ⟨.ended rfl, like.stores, like.idents, rfl⟩
  have traced : (Run.events : Run ω γ ConversionError _).Corresponds (Session.Like W) Eq
      (Run.events : Run ω' γ ConversionError _) :=
    fun s s' like => ⟨.ended (congrArg TraceSink.events like.sink), like⟩
  apply started.bind
  intro _ _ _
  apply (corresponds_readRecords_eq alike.readAlike source).bind
  rintro records _ rfl
  apply (corresponds_writeRecords alike target records).bind
  rintro counts _ rfl
  apply traced.bind
  rintro events _ rfl
  exact Run.corresponds_pure rfl

/-- What comes of a plan is a matter of the answers of the stores. -/
theorem corresponds_execute (alike : AnswerAlike W) (settings : Settings) (schema : Schema)
    (plan : Plan) :
    (settings.execute schema plan : Run ω γ SupervisionError Outcome).Corresponds
      (Session.Like W) Eq (settings.execute schema plan : Run ω' γ SupervisionError Outcome) := by
  have records (rs : List Record) :
      (settings.checkRecords schema rs : Run ω γ SupervisionError Unit).Corresponds
        (Session.Like W) Eq (settings.checkRecords schema rs : Run ω' γ SupervisionError Unit) := by
    unfold Settings.checkRecords
    by_cases checked : settings.checkResult = true
    · rw [if_pos checked, if_pos checked]
      exact corresponds_refuse _ _
    · rw [if_neg checked, if_neg checked]
      exact Run.corresponds_pure rfl
  apply (corresponds_checkSourceRows alike settings plan).bind
  intro _ _ _
  apply ((corresponds_convert alike _ _ _).mapError SupervisionError.conversion).bind
  rintro outcome _ rfl
  apply (records outcome.records).bind
  intro _ _ _
  exact Run.corresponds_pure rfl

end Convert

end Crossmap
