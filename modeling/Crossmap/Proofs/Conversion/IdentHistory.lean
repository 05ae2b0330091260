import Crossmap.Proofs.Conversion.RowStarts
import Crossmap.Proofs.Conversion.Supervision
import Crossmap.Proofs.Mapping.Rendering
import Crossmap.Proofs.Number.CodeText

/-! # Idents over a history of calls

Calls that read, write, check or convert follow one another, each on stores of its own, and share
one source of numbered idents (`History`). Whatever becomes of the calls, the rows that were started
without an ident column have the idents that are numbered from one, in the order in which they were
started: no number is left out, and no ident comes twice (`idents_never_repeat`).
-/

namespace Crossmap

open Mapping

variable {ω γ : Type}

/-! ## Runs that take no idents -/

/-- A run that settles takes no ident. -/
theorem Run.Settles.leavesIdents {ε α : Type} {r : Run ω γ ε α} {x : Except ε α}
    (settles : r.Settles x) : r.Leaves Session.idents := by
  intro s
  obtain ⟨sink, ended⟩ := settles s
  rw [ended]

/-- Writing takes no idents. -/
theorem leavesIdents_writeRecords [RecordTarget ω] (m : Model) (records : List Record) :
    (writeRecords m records : Run ω γ ConversionError _).Leaves Session.idents := by
  refine Run.leaves_foldlM (fun counts d => ?_) m.data _
  have rows (record : Record) : (writeRow m d record : Run ω γ _ _).Leaves Session.idents :=
    (settles_writeRow m d record).leavesIdents
  have batch (rows : List Row) :
      (Run.writeRows d.object rows : Run ω γ _ _).Leaves Session.idents := fun _ => rfl
  refine (Run.leaves_mapM rows _).bind fun _ => ?_
  exact ((batch _).mapError _).bind fun _ => Run.leaves_pure _

/-- Checking source rows takes no idents. -/
theorem leavesIdents_checkSourceRows [RecordSource ω] (settings : Settings) (plan : Plan) :
    (settings.checkSourceRows plan : Run ω γ _ Unit).Leaves Session.idents :=
  Settings.leaves_checkSourceRows (fun _ _ _ => rfl) settings plan

/-! ## Calls -/

/-- What can be asked for. -/
inductive Call where
  | read (m : Model)
  | write (m : Model) (records : List Record)
  | check (settings : Settings) (plan : Plan)
  | convert (source target : Model) (tracing : Bool)
  | execute (settings : Settings) (schema : Schema) (plan : Plan)
  | supervise (settings : Settings) (schemaName : String) (schema : Schema) (source target : Model)

namespace Call

/-- The run of a call, and the records that it reads. -/
def run [RecordSource ω] [RecordTarget ω] [IdentSource γ] :
    Call → Run ω γ SupervisionError (List Record)
  | read m => (readRecords m).mapError .conversion
  | write m records => do
    let _ ← (writeRecords m records).mapError .conversion
    return []
  | check settings plan => do
    settings.checkSourceRows plan
    return []
  | convert source target tracing => do
    let outcome ← (Crossmap.convert source target tracing).mapError .conversion
    return outcome.records
  | execute settings schema plan => do
    let outcome ← settings.execute schema plan
    return outcome.records
  | supervise settings schemaName schema source target => do
    let outcome ← settings.convert schemaName schema source target
    return outcome.records

/-- The session in which a plan begins to read, if its source rows pass the check. -/
def openingOfPlan [RecordSource ω] (settings : Settings) (plan : Plan) (s : Session ω γ) :
    Option (Model × Session ω γ) :=
  match (settings.checkSourceRows plan).exec s with
  | (.ok _, mid) => some (plan.sourceModel, { mid with sink := .start settings.trace })
  | (.error _, _) => none

/-- The model whose records a call reads, and the session in which it begins to read, if it comes to
that. -/
def opening [RecordSource ω] (s : Session ω γ) : Call → Option (Model × Session ω γ)
  | read m => some (m, s)
  | write _ _ => none
  | check _ _ => none
  | convert source _ tracing => some (source, { s with sink := .start tracing })
  | execute settings _ plan => openingOfPlan settings plan s
  | supervise settings schemaName schema source target =>
    match settings.plan schemaName schema source target with
    | .ok plan => openingOfPlan settings plan s
    | .error _ => none

/-- How a run goes that begins to read, if it does, and takes no idents before and after that. -/
structure ReadsIn [RecordSource ω] [IdentSource γ] (s : Session ω γ)
    (opening : Option (Model × Session ω γ)) (result : Except SupervisionError (List Record))
    (s' : Session ω γ) : Prop where
  idle : opening = none → s'.idents = s.idents ∧ ∀ records, result = .ok records → records = []
  reads : ∀ m opened, opening = some (m, opened) → opened.idents = s.idents ∧
    s'.idents = ((readRecords m).exec opened).2.idents ∧
      ∀ records, result = .ok records → ((readRecords m).exec opened).1 = .ok records

section ReadsIn

variable [RecordSource ω] [IdentSource γ] {s s' : Session ω γ}
  {result : Except SupervisionError (List Record)}

/-- A run that does not come to reading takes no ident and has no records. -/
theorem readsIn_none (left : s'.idents = s.idents)
    (nothing : ∀ records, result = .ok records → records = []) : ReadsIn s none result s' :=
  ⟨fun _ => ⟨left, nothing⟩, nofun⟩

/-- A run that begins to read takes the idents that reading takes, and has its records if it ends
well. -/
theorem readsIn_some {m : Model} {opened : Session ω γ} (same : opened.idents = s.idents)
    (left : s'.idents = ((readRecords m).exec opened).2.idents)
    (read : ∀ records, result = .ok records → ((readRecords m).exec opened).1 = .ok records) :
    ReadsIn s (some (m, opened)) result s' := by
  refine ⟨nofun, ?_⟩
  rintro _ _ ⟨⟩
  exact ⟨same, left, read⟩

variable [RecordTarget ω]

/-- A conversion reads the records of its source, and takes no idents once it writes. -/
theorem exec_convert_reads (source target : Model) (tracing : Bool) (s : Session ω γ) :
    let opened : Session ω γ := { s with sink := .start tracing }
    ((Crossmap.convert source target tracing).exec s).2.idents =
        ((readRecords source).exec opened).2.idents ∧
      ∀ outcome, ((Crossmap.convert source target tracing).exec s).1 = .ok outcome →
        ((readRecords source).exec opened).1 = .ok outcome.records := by
  intro opened
  rcases read : (readRecords source).exec opened with ⟨e | records, mid⟩
  · rw [exec_convert_of_error read]
    exact ⟨rfl, nofun⟩
  · rcases written : (writeRecords target records).exec mid with ⟨result, after⟩
    have left := leavesIdents_writeRecords target records mid
    rw [written] at left
    rw [exec_convert_of_ok read written]
    refine ⟨left, fun outcome ended => ?_⟩
    obtain ⟨counts, -, rfl⟩ := map_eq_ok_iff.mp ended
    rfl

/-- A plan that is carried out reads the records of its source, if the source rows pass. -/
theorem readsIn_execute (settings : Settings) (schema : Schema) (plan : Plan) (s : Session ω γ) :
    ReadsIn s (openingOfPlan settings plan s)
      (((settings.execute schema plan).exec s).1.map Outcome.records)
      ((settings.execute schema plan).exec s).2 := by
  have left := leavesIdents_checkSourceRows settings plan s
  unfold openingOfPlan
  rcases checked : (settings.checkSourceRows plan).exec s with ⟨e | _, mid⟩
  · rw [checked] at left
    rw [Settings.exec_execute_of_refused checked]
    exact readsIn_none left nofun
  · rw [checked] at left
    obtain ⟨idents, records⟩ :=
      exec_convert_reads plan.sourceModel plan.targetModel settings.trace mid
    rcases converted : (Crossmap.convert plan.sourceModel plan.targetModel settings.trace).exec mid
      with ⟨e | outcome, after⟩
    · rw [converted] at idents
      rw [Settings.exec_execute_of_error checked converted]
      exact readsIn_some left idents nofun
    · rw [converted] at idents records
      rw [Settings.exec_execute_of_ok checked converted]
      refine readsIn_some left idents fun rs ended => ?_
      obtain ⟨outcome', verdict, rfl⟩ := map_eq_ok_iff.mp ended
      unfold Settings.verdict at verdict
      split at verdict
      · cases verdict
      · obtain rfl := Except.ok.inj verdict
        exact records outcome rfl

/-- **One call.** A call that begins to read takes the idents that reading takes, and a call that
does not takes none. -/
theorem readsIn_run (c : Call) (s : Session ω γ) :
    ReadsIn s (c.opening s) (c.run.exec s).1 (c.run.exec s).2 := by
  cases c with
  | read m =>
      change ReadsIn s _ (((readRecords m).mapError .conversion).exec s).1 _
      rw [run, Run.exec_mapError]
      exact readsIn_some rfl rfl fun records ended => mapError_eq_ok_iff.mp ended
  | write m records =>
      rw [run, Run.exec_bind_pure _ fun _ => ([] : List Record), Run.exec_mapError]
      refine readsIn_none (leavesIdents_writeRecords m records s) fun rs ended => ?_
      obtain ⟨_, -, rfl⟩ := map_eq_ok_iff.mp ended
      rfl
  | check settings plan =>
      rw [run, Run.exec_bind_pure _ fun _ => ([] : List Record)]
      refine readsIn_none (leavesIdents_checkSourceRows settings plan s) fun rs ended => ?_
      obtain ⟨_, -, rfl⟩ := map_eq_ok_iff.mp ended
      rfl
  | convert source target tracing =>
      obtain ⟨idents, records⟩ := exec_convert_reads source target tracing s
      rw [run, Run.exec_bind_pure _ Outcome.records, Run.exec_mapError]
      refine readsIn_some rfl idents fun rs ended => ?_
      obtain ⟨outcome, converted, rfl⟩ := map_eq_ok_iff.mp ended
      exact records outcome (mapError_eq_ok_iff.mp converted)
  | execute settings schema plan =>
      rw [run, Run.exec_bind_pure _ Outcome.records]
      exact readsIn_execute settings schema plan s
  | supervise settings schemaName schema source target =>
      rw [run, Run.exec_bind_pure _ Outcome.records, Settings.convert, Run.exec_bind,
        Run.exec_ofExcept, opening]
      cases planned : settings.plan schemaName schema source target with
      | error e => exact readsIn_none rfl nofun
      | ok plan => exact readsIn_execute settings schema plan s

end ReadsIn

/-- What a call makes of a source of idents: the rows that it starts, each with its ident. -/
inductive Accounts [RecordSource ω] [RecordTarget ω] [IdentSource γ] (c : Call) (s : Session ω γ) :
    List Start → Prop
  | idle (closed : c.opening s = none) (left : (c.run.exec s).2.idents = s.idents)
      (records : ∀ records, (c.run.exec s).1 = .ok records → records = []) : Accounts c s []
  | reads {m : Model} {opened after : Session ω γ} {origins : List (Reading × Row)}
      {read : Except ConversionError (List Record)} (opening : c.opening s = some (m, opened))
      (same : opened.idents = s.idents) (ended : (readRecords m).exec opened = (read, after))
      (draws : Draws m opened m.readings origins read after)
      (left : (c.run.exec s).2.idents = after.idents)
      (records : ∀ records, (c.run.exec s).1 = .ok records → read = .ok records) :
      Accounts c s (startsFrom s.idents origins)

section Accounts

variable [RecordSource ω] [RecordTarget ω] [IdentSource γ] {c : Call} {s : Session ω γ}
  {starts : List Start}

/-- Every call, well ended or failed, starts certain rows. -/
theorem exists_accounts (c : Call) (s : Session ω γ) : ∃ starts, c.Accounts s starts := by
  have reads := readsIn_run c s
  cases opening : c.opening s with
  | none =>
      obtain ⟨left, nothing⟩ := reads.idle opening
      exact ⟨[], .idle opening left nothing⟩
  | some pair =>
      obtain ⟨m, opened⟩ := pair
      obtain ⟨same, left, records⟩ := reads.reads m opened opening
      obtain ⟨origins, draws⟩ := exists_draws_readRecords m opened
      exact ⟨_, .reads opening same rfl draws left records⟩

/-- The rows that a call starts have the idents that follow, and the source is left after them. -/
theorem Accounts.exists_origins (accounts : c.Accounts s starts) :
    ∃ origins, starts = startsFrom s.idents origins ∧
      (c.run.exec s).2.idents = identsLeft s.idents origins := by
  cases accounts with
  | idle _ left => exact ⟨[], rfl, left⟩
  | @reads _ _ _ origins _ _ same _ draws left =>
      refine ⟨origins, rfl, ?_⟩
      rw [left, draws.drawn.idents, same]

end Accounts

end Call

/-! ## Numbered idents -/

/-- Whether a row was started that has no column for its ident. -/
def Start.isNumbered (start : Start) : Bool := start.reading.identColumn.isNone

/-- The idents of the rows that have no column for it. -/
def numberedIdents (starts : List Start) : List (Option String) :=
  (starts.filter Start.isNumbered).map Start.ident

/-- The idents of rows without a column for them follow those of the rows before. -/
theorem numberedIdents_append (starts starts' : List Start) :
    numberedIdents (starts ++ starts') = numberedIdents starts ++ numberedIdents starts' := by
  rw [numberedIdents, List.filter_append, List.map_append]
  rfl

theorem numberedIdents_of_numbered {start : Start} (numbered : start.isNumbered = true) :
    numberedIdents [start] = [start.ident] := by
  rw [numberedIdents, List.filter_cons_of_pos numbered, List.filter_nil, List.map_singleton]

theorem numberedIdents_of_not_numbered {start : Start} (numbered : start.isNumbered = false) :
    numberedIdents [start] = [] := by
  rw [numberedIdents, List.filter_cons_of_neg (Bool.eq_false_iff.mp numbered), List.filter_nil,
    List.map_nil]

/-- The idents under a stem with certain numbers, one after another. -/
def identsNumbered (stem : String) (start count : Nat) : List (Option String) :=
  (List.range' start count).map fun n => some (stem ++ natText n)

/-- Different numbers make different idents. -/
theorem nodup_identsNumbered (stem : String) (start count : Nat) :
    (identsNumbered stem start count).Nodup := by
  refine List.Nodup.map ?_ List.nodup_range'
  intro n n' same
  have appended := congrArg String.toList (Option.some.inj same)
  rw [String.toList_append, String.toList_append, List.append_cancel_left_eq] at appended
  exact natText_injective (String.toList_inj.mp appended)

/-- Numbers go on where the ones before them have ended. -/
theorem identsNumbered_append (stem : String) (start count more : Nat) :
    identsNumbered stem start count ++ identsNumbered stem (start + count) more =
      identsNumbered stem start (count + more) := by
  rw [identsNumbered, identsNumbered, ← List.map_append, List.range'_append_1, identsNumbered]

/-- Whether rows have the idents that come next, without a gap, and leave the source behind the last
of them. -/
structure NumberedFrom (idents : NumberedIdents) (starts : List Start) (left : NumberedIdents) :
    Prop where
  numbered : numberedIdents starts =
    identsNumbered idents.stem (idents.given + 1) (numberedIdents starts).length
  left : left = ⟨idents.stem, idents.given + (numberedIdents starts).length⟩

namespace NumberedFrom

variable {idents mid left : NumberedIdents} {starts starts' : List Start}

theorem nothing (idents : NumberedIdents) : NumberedFrom idents [] idents := ⟨rfl, rfl⟩

/-- Rows that go on numbering where others have left the source are numbered together with them. -/
theorem append (first : NumberedFrom idents starts mid) (second : NumberedFrom mid starts' left) :
    NumberedFrom idents (starts ++ starts') left := by
  obtain ⟨numbered, rfl⟩ := first
  obtain ⟨numbered', rfl⟩ := second
  have length : (numberedIdents (starts ++ starts')).length =
      (numberedIdents starts).length + (numberedIdents starts').length := by
    rw [numberedIdents_append, List.length_append]
  constructor
  · rw [length, ← identsNumbered_append, numberedIdents_append]
    refine congr (congrArg _ numbered) (numbered'.trans ?_)
    rw [Nat.add_right_comm]
  · rw [length, Nat.add_assoc]

/-- A row takes the next number if its declaration has no ident column, and else none. -/
theorem row (idents : NumberedIdents) (r : Reading) (row : Row) :
    NumberedFrom idents [⟨r, row, r.identOfRow idents row⟩] (r.identsAfter idents) := by
  unfold Reading.identOfRow Reading.identsAfter
  cases declared : r.identColumn with
  | none =>
      have numbered : Start.isNumbered ⟨r, row, some (IdentSource.next idents).1⟩ = true :=
        Option.isNone_iff_eq_none.mpr declared
      constructor <;> rw [numberedIdents_of_numbered numbered] <;> rfl
  | some column =>
      have numbered : Start.isNumbered ⟨r, row, row.text? column⟩ = false := by
        rw [Start.isNumbered, declared, Option.isNone_some]
      constructor <;> rw [numberedIdents_of_not_numbered numbered] <;> rfl

/-- Rows that are started one after another are numbered without a gap. -/
theorem startsFrom (idents : NumberedIdents) (origins : List (Reading × Row)) :
    NumberedFrom idents (startsFrom idents origins) (identsLeft idents origins) := by
  induction origins generalizing idents with
  | nil => exact nothing idents
  | cons o rest ih => exact (row idents o.1 o.2).append (ih _)

end NumberedFrom

/-- **A call numbers the rows that it starts**, from the number at which it finds the source. -/
theorem Call.Accounts.numberedFrom [RecordSource ω] [RecordTarget ω] {c : Call}
    {s : Session ω NumberedIdents} {starts : List Start} (accounts : c.Accounts s starts) :
    NumberedFrom s.idents starts (c.run.exec s).2.idents := by
  obtain ⟨origins, rfl, left⟩ := accounts.exists_origins
  rw [left]
  exact .startsFrom s.idents origins

/-! ## Histories -/

/-- A call, and the stores and the sink that it finds. -/
structure Visit : Type 1 where
  ω : Type
  [source : RecordSource ω]
  [target : RecordTarget ω]
  call : Call
  stores : ω
  sink : TraceSink

attribute [instance] Visit.source Visit.target

namespace Visit

/-- The session that a call finds. -/
def session (v : Visit) (idents : NumberedIdents) : Session v.ω NumberedIdents :=
  ⟨v.stores, idents, v.sink⟩

/-- The source of idents that a call leaves, however it ends. -/
def identsLeft (v : Visit) (idents : NumberedIdents) : NumberedIdents :=
  (v.call.run.exec (v.session idents)).2.idents

end Visit

/-- Calls one after another, each with the source of idents that the one before it left, and the
rows that they start. -/
inductive History : NumberedIdents → List Visit → List Start → NumberedIdents → Prop
  | nothing (idents : NumberedIdents) : History idents [] [] idents
  | call {idents left : NumberedIdents} {v : Visit} {visits : List Visit}
      {starts others : List Start} (accounts : v.call.Accounts (v.session idents) starts)
      (further : History (v.identsLeft idents) visits others left) :
      History idents (v :: visits) (starts ++ others) left

/-- Every sequence of calls has a history. -/
theorem exists_history (idents : NumberedIdents) (visits : List Visit) :
    ∃ starts left, History idents visits starts left := by
  induction visits generalizing idents with
  | nil => exact ⟨[], idents, .nothing idents⟩
  | cons v rest ih =>
      obtain ⟨starts, accounts⟩ := v.call.exists_accounts (v.session idents)
      obtain ⟨others, left, further⟩ := ih (v.identsLeft idents)
      exact ⟨starts ++ others, left, .call accounts further⟩

/-- A run of calls numbers what each of them numbers. -/
theorem History.numberedFrom {idents left : NumberedIdents} {visits : List Visit}
    {starts : List Start} (history : History idents visits starts left) :
    NumberedFrom idents starts left := by
  induction history with
  | nothing idents => exact .nothing idents
  | call accounts _ ih => exact accounts.numberedFrom.append ih

/-- The rows of an inspection of a text have idents of their own. -/
theorem Start.isNumbered_of_parse {source text : String} {m : Model} {i : Inspection}
    (parsed : Model.parse source text = .ok m) (member : i ∈ m.inspections) {start : Start}
    (reads : start.reading = .inspection i) : start.isNumbered = false := by
  have wellFormed := (bodyWellFormed_of_parse parsed).1.inspections i member
  obtain ⟨column, declared, -⟩ := wellFormed.identColumn
  rw [Start.isNumbered, reads]
  exact Option.isNone_eq_false_iff.mpr (Option.isSome_iff_exists.mpr ⟨column, declared⟩)

/-- **Idents never repeat.** Over any history of calls, well ended or failed, that share a fresh
source of numbered idents, the rows that were started without an ident column have the idents under
the stem with the numbers one, two, three and so on, in the order in which they were started; no two
of them are the same, and the source has given these and no others. Rows of an inspection that was
read from a text are not among them. -/
theorem idents_never_repeat (stem : String) (visits : List Visit) :
    (∃ starts left, History (.fresh stem) visits starts left) ∧
      ∀ starts left, History (.fresh stem) visits starts left →
        let idents := (starts.filter Start.isNumbered).map Start.ident
        idents = (List.range' 1 idents.length).map (fun n => some (stem ++ natText n)) ∧
          idents.Nodup ∧ left = ⟨stem, idents.length⟩ ∧
          ∀ source text m i start, Model.parse source text = .ok m → i ∈ m.inspections →
            start ∈ starts → start.reading = .inspection i → start.isNumbered = false := by
  refine ⟨exists_history _ visits, ?_⟩
  intro starts left history idents
  obtain ⟨numbered, stands⟩ := history.numberedFrom
  rw [NumberedIdents.fresh, Nat.zero_add] at numbered stands
  refine ⟨numbered, ?_, stands, ?_⟩
  · change (numberedIdents starts).Nodup
    rw [numbered]
    exact nodup_identsNumbered _ _ _
  · intro source text m i start parsed member _ reads
    exact Start.isNumbered_of_parse parsed member reads

/-- Pebbles without idents, whose sizes have to be written as codes. -/
def pebbles : Model :=
  { Model.bare "pebbles" with
    valueMaps := .ofList [("SIZE", ⟨"SIZE", .ofList [(1, "small")]⟩)]
    data := [{ DataDeclaration.bare "P" "PEBBLES" "Pebble" with
      columns := [⟨"SIZE", "Size", some "SIZE"⟩] }] }

/-- Three pebbles, of which the second does not resolve. -/
def pebbleSession : Session (Endpoints MemoryStore MemoryStore) NumberedIdents :=
  ⟨⟨MemoryStore.empty.insertRows "PEBBLES" [.ofList [("SIZE", .whole 1)],
      .ofList [("SIZE", .string "big")], .ofList [("SIZE", .whole 1)]],
    .empty⟩, .fresh "n", .discard⟩

/-- The pebble that does not resolve has taken an ident, and the one after it takes none. -/
example : ((Call.read pebbles).run.exec pebbleSession).2.idents = ⟨"n", 2⟩ := by decide +kernel

end Crossmap
