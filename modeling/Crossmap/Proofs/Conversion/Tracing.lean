import Crossmap.Proofs.Conversion.Delivery

/-! # Conversions without their trace

A run is indifferent to the sink if it ends in the same way, with the same stores and the same
source of idents, whether its events are kept or dropped (`Run.Indifferent`). Runs made of such runs
are indifferent as well, and reading and writing records is made of them. A conversion differs from
one that is traced in its trace alone (`convert_untraced`).
-/

namespace Crossmap

open Mapping

variable {ω γ : Type}

/-- The session with a sink that drops all events. -/
def Session.muted (s : Session ω γ) : Session ω γ := { s with sink := .discard }

namespace Run

variable {ε α β : Type}

/-- A run that takes a session whose sink drops events to the result to which it takes any other,
and to the session that results there but for the sink. -/
def Indifferent (r : Run ω γ ε α) : Prop :=
  ∀ s : Session ω γ, r.exec s.muted = ((r.exec s).1, (r.exec s).2.muted)

theorem indifferent_pure (a : α) : (pure a : Run ω γ ε α).Indifferent := fun _ => rfl

theorem indifferent_throw (e : ε) : (throw e : Run ω γ ε α).Indifferent := fun _ => rfl

theorem indifferent_ofExcept (x : Except ε α) : (ofExcept x : Run ω γ ε α).Indifferent :=
  fun _ => rfl

theorem indifferent_nextIdent [IdentSource γ] : (nextIdent : Run ω γ ε String).Indifferent :=
  fun _ => rfl

/-- Rows are read from the stores, whatever the sink. -/
theorem indifferent_readRows [RecordSource ω] (object : String) (filter : Filter) :
    (readRows object filter : Run ω γ StorageError (List Row)).Indifferent := fun _ => rfl

theorem indifferent_writeRows [RecordTarget ω] (object : String) (rows : List Row) :
    (writeRows object rows : Run ω γ StorageError Unit).Indifferent := fun _ => rfl

/-- Reporting an event makes no difference but in the sink. -/
theorem indifferent_report (e : TraceEvent) : (report e : Run ω γ ε Unit).Indifferent :=
  fun _ => rfl

/-- An indifferent run remains so when its errors are reworded. -/
theorem Indifferent.mapError {ε' : Type} {r : Run ω γ ε α} (first : r.Indifferent) (f : ε → ε') :
    (r.mapError f).Indifferent := by
  intro s
  rw [exec_mapError, exec_mapError, first s]

/-- Indifferent runs in sequence are indifferent. -/
theorem Indifferent.bind {r : Run ω γ ε α} {f : α → Run ω γ ε β} (first : r.Indifferent)
    (next : ∀ a, (f a).Indifferent) : (r >>= f).Indifferent := by
  intro s
  have muted := first s
  rcases ended : r.exec s with ⟨e | a, mid⟩
  · rw [ended] at muted
    rw [exec_bind_error ended, exec_bind_error muted]
  · rw [ended] at muted
    rw [exec_bind_ok ended, exec_bind_ok muted]
    exact next a mid

/-- A fold of indifferent steps is indifferent. -/
theorem indifferent_foldlM {f : β → α → Run ω γ ε β} (steps : ∀ b a, (f b a).Indifferent)
    (l : List α) (b : β) : (l.foldlM f b).Indifferent := by
  induction l generalizing b with
  | nil => exact indifferent_pure b
  | cons a rest ih =>
      rw [List.foldlM_cons]
      apply (steps b a).bind
      intro b'
      exact ih b'

/-- Indifferent runs for the items of a list are indifferent together. -/
theorem indifferent_mapM {f : α → Run ω γ ε β} (steps : ∀ a, (f a).Indifferent) (l : List α) :
    (l.mapM f).Indifferent := by
  induction l with
  | nil => exact indifferent_pure []
  | cons a rest ih =>
      rw [List.mapM_cons]
      apply (steps a).bind
      intro b
      apply ih.bind
      intro bs
      exact indifferent_pure (b :: bs)

end Run

/-- Sessions with the same stores and the same source of idents are alike but for their sinks, and
so are they after such a run, which ends in both in the same way. -/
theorem Run.Indifferent.exec_eq {ε α : Type} {r : Run ω γ ε α} (indifferent : r.Indifferent)
    {s t s' : Session ω γ} {x : Except ε α} (alike : t.muted = s.muted)
    (ended : r.exec s = (x, s')) :
    ∃ t', r.exec t = (x, t') ∧ t'.muted = s'.muted := by
  have first := indifferent s
  have second := indifferent t
  rw [alike, first, ended] at second
  obtain ⟨result, after⟩ := Prod.mk.inj second
  exact ⟨(r.exec t).2, Prod.ext result.symm rfl, after.symm⟩

/-! ## Reading -/

section Read

variable [IdentSource γ]

/-- The ident of a row does not depend on the sink. -/
theorem indifferent_identOf (row : Row) (identColumn : Option String) (object : String) :
    (identOf row identColumn object : Run ω γ ConversionError String).Indifferent := by
  cases identColumn with
  | none => exact Run.indifferent_nextIdent
  | some column =>
      rw [identOf]
      cases row.text? column with
      | none => exact Run.indifferent_throw _
      | some ident => exact Run.indifferent_pure ident

omit [IdentSource γ] in

/-- The event of a column is reported between the resolution of its value and its way into the
record, and neither of these looks at the sink. -/
theorem indifferent_readColumns (m : Model) (row : Row) (detail : String) (columns : List Column)
    (record : Record) :
    (readColumns m row detail columns record : Run ω γ ConversionError Record).Indifferent := by
  apply Run.indifferent_foldlM
  intro record c
  apply (Run.indifferent_ofExcept _).bind
  intro value
  apply (Run.indifferent_report _).bind
  intro _
  cases value with
  | none => exact Run.indifferent_pure _
  | some value => exact Run.indifferent_pure _

/-- Reading a row does not depend on the sink. -/
theorem indifferent_readDataRow (m : Model) (d : DataDeclaration) (row : Row) :
    (readDataRow m d row : Run ω γ ConversionError Record).Indifferent := by
  apply (indifferent_identOf row d.identColumn d.object).bind
  intro ident
  exact indifferent_readColumns m row _ d.columns _

/-- Inspecting a row does not depend on the sink. -/
theorem indifferent_inspectRow (m : Model) (i : Inspection) (row : Row) :
    (inspectRow m i row : Run ω γ ConversionError Record).Indifferent := by
  apply (indifferent_identOf row i.identColumn i.object).bind
  intro ident
  apply (Run.indifferent_ofExcept _).bind
  intro structAttr
  apply (Run.indifferent_ofExcept _).bind
  intro chosen
  exact indifferent_readColumns m row _ i.columns _

section Source

variable [RecordSource ω]

omit [IdentSource γ] in
theorem indifferent_readRows_mapError (object : String) (filter : Filter) :
    ((Run.readRows object filter).mapError .storage :
      Run ω γ ConversionError (List Row)).Indifferent :=
  (Run.indifferent_readRows object filter).mapError _

theorem indifferent_readData (m : Model) (d : DataDeclaration) :
    (readData m d : Run ω γ ConversionError (List Record)).Indifferent :=
  (indifferent_readRows_mapError d.object d.filter).bind fun rows =>
    Run.indifferent_mapM (indifferent_readDataRow m d) rows

theorem indifferent_inspect (m : Model) (i : Inspection) :
    (inspect m i : Run ω γ ConversionError (List Record)).Indifferent :=
  (indifferent_readRows_mapError i.object .empty).bind fun rows =>
    Run.indifferent_mapM (indifferent_inspectRow m i) rows

/-- **Reading records does not depend on the sink.** -/
theorem indifferent_readRecords (m : Model) :
    (readRecords m : Run ω γ ConversionError (List Record)).Indifferent := by
  apply (Run.indifferent_mapM (indifferent_readData m) m.data).bind
  intro data
  apply (Run.indifferent_mapM (indifferent_inspect m) m.inspections).bind
  intro inspections
  exact Run.indifferent_pure _

end Source

end Read

/-! ## Writing -/

/-- Making a row of a record does not depend on the sink. -/
theorem indifferent_writeRow (m : Model) (d : DataDeclaration) (record : Record) :
    (writeRow m d record : Run ω γ ConversionError Row).Indifferent := by
  apply Run.indifferent_foldlM
  intro row c
  apply (Run.indifferent_ofExcept _).bind
  intro cell
  apply (Run.indifferent_report _).bind
  intro _
  exact Run.indifferent_pure _

/-- **Writing records does not depend on the sink.** -/
theorem indifferent_writeRecords [RecordTarget ω] (m : Model) (records : List Record) :
    (writeRecords m records : Run ω γ ConversionError (Dict String Nat)).Indifferent := by
  apply Run.indifferent_foldlM
  intro counts d
  apply (Run.indifferent_mapM (indifferent_writeRow m d) _).bind
  intro rows
  apply ((Run.indifferent_writeRows d.object rows).mapError _).bind
  intro _
  exact Run.indifferent_pure _

/-! ## The whole -/

/-- **A trace changes nothing else.** A conversion that is not traced ends as the traced one does:
with the same error, or with the same records and counts and an empty trace. It leaves the same
stores and the same source of idents, also where it fails after some batches were written. -/
theorem convert_untraced [RecordSource ω] [RecordTarget ω] [IdentSource γ] (source target : Model)
    (before : Session ω γ) :
    let traced := (convert source target true).exec before
    let untraced := (convert source target false).exec before
    untraced.1 = traced.1.map (fun outcome => { outcome with trace := [] }) ∧
      untraced.2.stores = traced.2.stores ∧ untraced.2.idents = traced.2.idents := by
  have muted := indifferent_readRecords (γ := γ) source { before with sink := .start true }
  rcases read : (readRecords source).exec { before with sink := .start true } with
    ⟨e | records, mid⟩
  · rw [read] at muted
    rw [exec_convert_of_error read, exec_convert_of_error muted]
    exact ⟨rfl, rfl, rfl⟩
  · rw [read] at muted
    have mutedWrite := indifferent_writeRecords target records mid
    rcases written : (writeRecords target records).exec mid with ⟨result, after⟩
    rw [written] at mutedWrite
    rw [exec_convert_of_ok read written, exec_convert_of_ok muted mutedWrite]
    cases result with
    | error e => exact ⟨rfl, rfl, rfl⟩
    | ok counts => exact ⟨rfl, rfl, rfl⟩

end Crossmap
