import Crossmap.Proofs.Conversion.Answers
import Crossmap.Proofs.Conversion.Recoding

/-! # What a trace says of a conversion

The trace of a conversion holds the events of the rows that were read, one row after another, and
then those of the records that every declaration wrote. Putting the values of the events of a row
under the paths to which they went makes the values of its record (`replayedValues_events`), and
putting those of the events of a record under their columns makes the texts of the cells of its row
(`retells_writtenRow`). `trace_explains_convert` says so of all that a conversion read and wrote.
-/

namespace Crossmap

open Mapping

variable {ω γ : Type}

/-! ## The values of a record -/

/-- Puts the value of an event under its target. An event without a value changes nothing. -/
def replayValue (values : Dict String String) (e : TraceEvent) : Dict String String :=
  match e.value with
  | some value => values.insert e.target value
  | none => values

/-- The values that events put under their targets, later ones in the place of earlier ones. -/
def replayedValues (events : List TraceEvent) : Dict String String :=
  events.foldl replayValue .empty

section Read

variable {m : Model} {row : Row}

/-- The events of columns put into a record what the columns lead to. -/
theorem values_columnsRead {columns : List Column} {r r' : Record}
    (read : columnsRead m row columns r = .ok r') (detail : String) (record : Record) :
    (columns.map (readEvent m row detail record)).foldl replayValue r.values = r'.values := by
  induction columns generalizing r with
  | nil =>
      obtain rfl := Except.ok.inj read
      rfl
  | cons c rest ih =>
      rw [columnsRead, List.foldlM_cons, bind_eq_ok_iff] at read
      obtain ⟨r₁, first, further⟩ := read
      obtain ⟨value, found, rfl⟩ := columnRead_eq_ok_iff.mp first
      have step : replayValue r.values (readEvent m row detail record c) =
          (r.withValue c.targetPath value).values := by
        rw [readEvent, replayValue, found]
        cases value with
        | none => rfl
        | some value => rfl
      rw [List.map_cons, List.foldl_cons, step, ih further]

/-- The events of a row make the values of its record. -/
theorem replayedValues_events {reading : Reading} {record : Record}
    (made : reading.Makes m row record) :
    replayedValues (reading.events m row record) = record.values := by
  obtain ⟨start, empty, read⟩ := made.exists_columnsRead
  rw [replayedValues, Reading.events, ← empty]
  exact values_columnsRead read reading.detail record

end Read

/-! ## The cells of a row -/

/-- Puts the value of an event under its target, an absent one as well. -/
def replayText (texts : Dict String (Option String)) (e : TraceEvent) :
    Dict String (Option String) :=
  texts.insert e.target e.value

/-- What events put under their targets, later ones in the place of earlier ones. -/
def replayedTexts (events : List TraceEvent) : Dict String (Option String) :=
  events.foldl replayText .empty

/-- Whether a cell stands under a name and its text among texts. -/
def ShowsCell (w : Row) (texts : Dict String (Option String)) (name : String) : Prop :=
  ∃ cell, w.get? name = some cell ∧ texts.get? name = some (cellText cell)

/-- Whether the events of a record show all cells that its row has under the columns of a
declaration. -/
def Mapping.DataDeclaration.Retells (m : Model) (d : DataDeclaration) (record : Record) (w : Row) :
    Prop :=
  ∀ c ∈ d.columns, ShowsCell w (replayedTexts (d.events m record)) c.sourceColumn

section Write

variable {m : Model} {record : Record}

/-- Cells that the texts show are shown after further columns, and so are those that the columns
write. -/
theorem showsCell_foldlM_columnWritten {columns : List Column} {w w' : Row}
    {texts : Dict String (Option String)} {name : String}
    (written : columns.foldlM (columnWritten m record) w = .ok w') (detail : String)
    (shown : ShowsCell w texts name ∨ ∃ c ∈ columns, c.sourceColumn = name) :
    ShowsCell w' ((columns.map (writeEvent m detail record)).foldl replayText texts) name := by
  induction columns generalizing w texts with
  | nil =>
      obtain rfl := Except.ok.inj written
      rcases shown with shown | ⟨c, member, -⟩
      · exact shown
      · cases member
  | cons c rest ih =>
      rw [List.foldlM_cons, bind_eq_ok_iff] at written
      obtain ⟨w₁, first, further⟩ := written
      obtain ⟨cell, found, rfl⟩ := columnWritten_eq_ok_iff.mp first
      have step : replayText texts (writeEvent m detail record c) =
          texts.insert c.sourceColumn (cellText cell) := by
        rw [writeEvent, replayText, found]
        rfl
      rw [List.map_cons, List.foldl_cons, step]
      apply ih further
      -- This column shows the name, or it leaves the name as it is: shown, or still to come.
      by_cases same : name = c.sourceColumn
      · left
        exact ⟨cell, by rw [same, Dict.get?_insert_self], by rw [same, Dict.get?_insert_self]⟩
      · rcases shown with ⟨cell', stands, told⟩ | ⟨c', member, named⟩
        · left
          exact ⟨cell', by rw [Dict.get?_insert, if_neg same, stands],
            by rw [Dict.get?_insert, if_neg same, told]⟩
        · right
          rcases List.mem_cons.mp member with rfl | inRest
          · exact (same named.symm).elim
          · exact ⟨c', inRest, named⟩

/-- The events of a record show the cells of its row. -/
theorem retells_writtenRow {d : DataDeclaration} {w : Row}
    (written : writtenRow m d record = .ok w) : d.Retells m record w :=
  fun c member => showsCell_foldlM_columnWritten written _ (.inr ⟨c, member, rfl⟩)

end Write

/-! ## The whole -/

/-- Whether a trace accounts for a conversion that took in rows and handed over batches. -/
structure Explains [RecordSource ω] [RecordTarget ω] (source target : Model) (before after : ω)
    (outcome : Outcome) (intakes : List Intake) (batches : List Batch) : Prop where
  /-- The rows are those that the stores gave, and the batches those that were handed over. -/
  happened : ∃ mid, Gives before source.readings (intakes.map Intake.origin) mid ∧
    Handed mid batches none after
  records : intakes.map Intake.record = outcome.records
  trace : outcome.trace = intakes.flatMap (Intake.events source) ++
    target.data.flatMap fun d =>
      (outcome.records.filter fun r => r.className = d.className).flatMap (d.events target)
  values : ∀ i ∈ intakes, i.reading.Makes source i.row i.record ∧
    replayedValues (i.events source) = i.record.values
  cells : List.Forall₂ (fun d b => CompleteBatch target outcome.records d b ∧
    List.Forall₂ (d.Retells target) (outcome.records.filter fun r => r.className = d.className)
      b.rows) target.data batches

/-- **A trace explains its conversion.** The trace of a conversion that ended well holds one event
for every column of every row that was read, and then one for every column of every record that a
declaration wrote. The events of a row make the values of its record, and those of a record the
texts of the cells of its row. -/
theorem trace_explains_convert [RecordSource ω] [RecordTarget ω] [IdentSource γ]
    {source target : Model} {before after : Session ω γ} {outcome : Outcome}
    (ended : (convert source target true).exec before = (.ok outcome, after)) :
    ∃ intakes batches,
      Explains source target before.stores after.stores outcome intakes batches := by
  obtain ⟨mid, read, written, trace⟩ := exists_of_convert_eq_ok ended
  obtain ⟨intakes, taken, records⟩ := takesIn_readRecords read
  obtain ⟨events, rfl, told⟩ := tells_writeRecords target outcome.records mid after _ written
  obtain ⟨batches, handed, complete⟩ := exists_of_writeRecords_eq_ok written
  refine ⟨intakes, batches, ⟨mid.stores, taken.gives, handed⟩, records, ?_, ?_, ?_⟩
  · rw [trace, told, taken.told, ← TraceSink.receiveAll_append, TraceSink.events_receiveAll_start]
    rfl
  · intro i member
    have made := taken.made i member
    exact ⟨made, replayedValues_events made⟩
  · exact complete.imp fun d b batch => ⟨batch, batch.rows.imp fun _ _ => retells_writtenRow⟩

/-- Buildings whose kind chooses the class, with two columns for one path. -/
def buildingSource : Model :=
  { Model.bare "buildings" with
    valueMaps := .ofList [("KIND", ⟨"KIND", .ofList [(1, "House"), (2, "Barn")]⟩)]
    inspections := [{ Inspection.bare "B" "BUILDINGS" "Shed" with
      identColumn := some "ID"
      parentColumn := some "LOT"
      classColumn := some "KIND"
      classMap := some "KIND"
      columns := [⟨"NOTE", "Note", none⟩, ⟨"REMARK", "Note", none⟩,
        ⟨"KIND", "Kind", some "KIND"⟩] }] }

/-- Houses with two columns of one name. -/
def buildingTarget : Model :=
  { Model.bare "houses" with
    valueMaps := .ofList [("K", ⟨"K", .ofList [(10, "House")]⟩)]
    data := [{ DataDeclaration.bare "H" "HOUSES" "House" with
      identColumn := some "ID"
      columns := [⟨"TEXT", "Note", none⟩, ⟨"K", "Kind", some "K"⟩, ⟨"TEXT", "$PARENT", none⟩] }] }

def buildingSession : Session (Endpoints MemoryStore MemoryStore) NumberedIdents :=
  ⟨⟨MemoryStore.empty.insertRows "BUILDINGS" [
      .ofList [("ID", .whole 7), ("KIND", .string "1"), ("NOTE", .string "old"),
        ("REMARK", .string "new"), ("LOT", .string "L")],
      .ofList [("ID", .whole 8), ("NOTE", .string "small")]],
    .empty⟩, .fresh "n", .discard⟩

/-- The lines of the trace of the conversion of the buildings. -/
def buildingLines : List String := [
  "READ|House|7|NOTE->Note|old|inspection=BUILDINGS",
  "READ|House|7|REMARK->Note|new|inspection=BUILDINGS",
  "READ|House|7|KIND->Kind|House|inspection=BUILDINGS",
  "READ|Shed|8|NOTE->Note|small|inspection=BUILDINGS",
  "READ|Shed|8|REMARK->Note|null|inspection=BUILDINGS",
  "READ|Shed|8|KIND->Kind|null|inspection=BUILDINGS",
  "WRITE|House|7|Note->TEXT|new|target=HOUSES",
  "WRITE|House|7|Kind->K|10|target=HOUSES",
  "WRITE|House|7|$PARENT->TEXT|L|target=HOUSES"]

theorem trace_explains_convert_buildings :
    ∃ outcome after intakes batches,
      (convert buildingSource buildingTarget true).exec buildingSession = (.ok outcome, after) ∧
        outcome.trace.map TraceEvent.line = buildingLines ∧
        Explains buildingSource buildingTarget buildingSession.stores after.stores outcome intakes
          batches := by
  have lines : ((convert buildingSource buildingTarget true).exec buildingSession).1.map
      (fun outcome => outcome.trace.map TraceEvent.line) = .ok buildingLines := by
    decide +kernel
  obtain ⟨outcome, after, ended⟩ :=
    Run.exists_exec_eq_ok (r := convert buildingSource buildingTarget true) (s := buildingSession)
      (by decide +kernel)
  rw [ended] at lines
  obtain ⟨intakes, batches, explains⟩ := trace_explains_convert ended
  exact ⟨outcome, after, intakes, batches, ended, Except.ok.inj lines, explains⟩

end Crossmap
