import Crossmap.CommandLine.Run
import Crossmap.Proofs.Conversion.Delivery
import Crossmap.Proofs.Conversion.Fields
import Crossmap.Proofs.Conversion.Resolution
import Crossmap.Proofs.Mapping.Rendering
import Crossmap.Proofs.Number.CodeText
import Crossmap.Proofs.Text.Lines

/-! # The lines of a trace

The text of a trace ends the text of every event with a line break, and puts the texts of its parts
into it as they are. So the lines of the text are the events one by one exactly if none of the parts
holds a line break (`lines_traceText`). Names do not, and value maps lead to names and codes: where
the models are read from texts, it is the idents and the values that matter, and they hold no line
break unless a cell of the source or an ident that was given out holds one
(`trace_lines_are_events_iff`). A quoted field of a table can, and one such field writes lines that
look like events (`trace_lines_forged`).
-/

namespace Crossmap

open Mapping Text

variable {ω γ : Type}

/-! ## Events -/

/-- The text of a trace has an end of line after each of its events. -/
theorem CommandRun.traceText_eq_endLines (events : List TraceEvent) :
    CommandRun.traceText events = endLines (events.map TraceEvent.line) := by
  rw [traceText, endLines, List.map_map]
  rfl

/-- Whether no part of an event holds a line break. -/
structure TraceEvent.Unbroken (e : TraceEvent) : Prop where
  className : IsLine e.className
  ident : IsLine e.ident
  source : IsLine e.source
  target : IsLine e.target
  value : ∀ v ∈ e.value, IsLine v
  detail : IsLine e.detail

/-- The text of an event is a line exactly if its parts are. -/
theorem TraceEvent.isLine_line_iff {e : TraceEvent} : IsLine e.line ↔ e.Unbroken := by
  have phase : IsLine e.phase.text := by cases e.phase <;> decide
  have value : IsLine (e.value.getD "null") ↔ ∀ v ∈ e.value, IsLine v := by
    cases e.value with
    | none => exact iff_of_true (by decide) nofun
    | some v => simp
  have bar : IsLine "|" := by decide
  have arrow : IsLine "->" := by decide
  simp only [line, isLine_append_iff, value, phase, bar, arrow, true_and, and_true, and_assoc]
  constructor
  · rintro ⟨className, ident, source, target, value, detail⟩
    exact ⟨className, ident, source, target, value, detail⟩
  · rintro ⟨className, ident, source, target, value, detail⟩
    exact ⟨className, ident, source, target, value, detail⟩

/-- **The lines of a trace** are the lines of its events, and they are the events one by one exactly
if no part of an event holds a line break. -/
theorem lines_traceText (events : List TraceEvent) :
    lines (CommandRun.traceText events) = events.flatMap (fun e => lines e.line) ++ [""] ∧
      (lines (CommandRun.traceText events) = events.map TraceEvent.line ++ [""] ↔
        ∀ e ∈ events, e.Unbroken) := by
  rw [CommandRun.traceText_eq_endLines]
  constructor
  · rw [lines_endLines, List.flatMap_map]
  · rw [lines_endLines_eq_iff, List.forall_mem_map]
    exact forall₂_congr fun e _ => TraceEvent.isLine_line_iff

/-! ## Names -/

section Names

variable {s path : String}

/-- A lexical name keeps to one line. -/
theorem isLine_of_isName (lexical : IsName s) : IsLine s := by
  intro member
  exact absurd (isNamePart_of_mem_isName lexical '\n' member) (by decide)

/-- A dotted path keeps to one line. -/
theorem isLine_of_isPath (dotted : IsPath path) : IsLine path := by
  intro member
  obtain ⟨piece, inPieces, inPiece⟩ := exists_mem_splitAt member (show '\n' ≠ '.' by decide)
  have lexical : IsName (String.ofList piece) := dotted _ (List.mem_map_of_mem inPieces)
  apply isLine_of_isName lexical
  rwa [String.toList_ofList]

/-- The target of a column keeps to one line. -/
theorem isLine_of_isTarget (target : IsTarget path) : IsLine path := by
  rcases target with dotted | ⟨s, lexical, rfl⟩
  · exact isLine_of_isPath dotted
  · exact isLine_append_iff.mpr ⟨by decide, isLine_of_isName lexical⟩

end Names

namespace Mapping.Model

variable {m : Model} {map value : Option String}

/-- A value map of a text leads to lines, and lets lines pass. -/
theorem BodyWellFormed.isLine_forward (wellFormed : m.BodyWellFormed) {path : Option String}
    (leads : m.forward map value = .ok path) (ofLines : map = none → ∀ v ∈ value, IsLine v) :
    ∀ v ∈ path, IsLine v := by
  cases map with
  | none =>
      obtain rfl := Except.ok.inj leads
      exact ofLines rfl
  | some name =>
      cases value with
      | none =>
          obtain rfl := Except.ok.inj leads
          exact nofun
      | some value =>
          change m.forwardThrough name value = .ok path at leads
          unfold forwardThrough at leads
          by_cases passes : value = passThrough
          · rw [if_pos passes] at leads
            obtain rfl := Except.ok.inj leads
            rintro v ⟨⟩
            rw [passes]
            decide
          · rw [if_neg passes, bind_eq_ok_iff] at leads
            obtain ⟨v, required, chosen⟩ := leads
            have declared := requireMap_eq_ok_iff.mp required
            cases read : Code.ofText? value with
            | none =>
                rw [read] at chosen
                cases chosen
            | some code =>
                rw [read] at chosen
                obtain rfl := Except.ok.inj chosen
                intro path found
                have entry := Dict.get?_eq_some_iff.mp declared
                have member := Dict.get?_eq_some_iff.mp found
                exact isLine_of_isPath ((wellFormed.valueMaps _ entry).paths _ member)

/-- A number keeps to one line. -/
theorem isLine_intText (i : Int) : IsLine (intText i) := by
  have digits (n : Nat) : IsLine (natText n) := by
    rw [IsLine, natText, String.toList_ofList]
    intro member
    exact absurd (Code.isDigit_of_mem_toDigits member) (by decide)
  unfold intText
  split
  · exact isLine_append_iff.mpr ⟨by decide, digits _⟩
  · exact digits _

/-- Going back through a value map leads to codes, and lets lines pass. -/
theorem isLine_backward {cell : Cell} (leads : m.backward map value = .ok cell)
    (ofLines : map = none → ∀ v ∈ value, IsLine v) : ∀ t ∈ cellText cell, IsLine t := by
  cases value with
  | none =>
      have none : cell = .null := by cases map <;> exact (Except.ok.inj leads).symm
      rw [none]
      exact nofun
  | some value =>
      cases map with
      | none =>
          obtain rfl := Except.ok.inj leads
          exact ofLines rfl
      | some name =>
          change m.backwardThrough name value = .ok cell at leads
          unfold backwardThrough at leads
          by_cases passes : value = passThrough
          · rw [if_pos passes] at leads
            obtain rfl := Except.ok.inj leads
            rintro t ⟨⟩
            rw [passes]
            decide
          · rw [if_neg passes, bind_eq_ok_iff] at leads
            obtain ⟨v, -, chosen⟩ := leads
            rcases codes : v.codesFor value with _ | ⟨code, _ | ⟨code', rest⟩⟩
            · rw [codes] at chosen
              cases chosen
            · rw [codes] at chosen
              obtain rfl := Except.ok.inj chosen
              rintro t ⟨⟩
              change IsLine (String.ofList (intText code.toInt).toList)
              rw [String.ofList_toList]
              exact isLine_intText _
            · rw [codes] at chosen
              cases chosen

end Mapping.Model

/-! ## Declarations of texts -/

section Declarations

variable {m : Model} {row : Row} {record : Record} {r : Reading} {c : Column}

/-- What a text declares for reading is made of lines. -/
theorem isLine_of_reading (wellFormed : m.BodyWellFormed) (declared : r ∈ m.readings) :
    IsLine r.detail ∧ ∀ c ∈ r.columns, c.WellFormed := by
  rcases Model.mem_readings_iff.mp declared with ⟨d, member, rfl⟩ | ⟨i, member, rfl⟩
  · have clauses := wellFormed.data d member
    refine ⟨?_, clauses.columns⟩
    exact isLine_append_iff.mpr ⟨by decide, isLine_of_isName clauses.object⟩
  · have clauses := wellFormed.inspections i member
    refine ⟨?_, clauses.columns⟩
    exact isLine_append_iff.mpr ⟨by decide, isLine_of_isName clauses.object⟩

/-- The class of a record is a line: the one that is declared, or one that the class map chooses. -/
theorem Reading.Makes.isLine_className (wellFormed : m.BodyWellFormed) (declared : r ∈ m.readings)
    (made : r.Makes m row record) : IsLine record.className := by
  cases made with
  | @data d _ ident _ identified read =>
      obtain ⟨values, rfl⟩ := exists_values_of_columnsRead read
      rcases Model.mem_readings_iff.mp declared with ⟨d', member, same⟩ | ⟨_, _, other⟩
      · obtain rfl := Reading.data.inj same
        exact isLine_of_isPath (wellFormed.data d member).className
      · cases other
  | @inspection i _ ident role chosen _ identified roleRead classRead read =>
      obtain ⟨values, rfl⟩ := exists_values_of_columnsRead read
      rcases Model.mem_readings_iff.mp declared with ⟨_, _, other⟩ | ⟨i', member, same⟩
      · cases other
      · obtain rfl := Reading.inspection.inj same
        have clauses := wellFormed.inspections i member
        have unmapped : i.classMap = none → ∀ v ∈ textIn? row i.classColumn, IsLine v := by
          intro none
          rcases clauses.classColumn with ⟨noColumn, -⟩ | ⟨_, _, -, some, -⟩
          · rw [noColumn]
            exact nofun
          · cases none.symm.trans some
        have choice := wellFormed.isLine_forward classRead unmapped
        cases chosen with
        | none => exact isLine_of_isPath clauses.className
        | some className => exact choice className rfl

/-- An event of a row of a text holds no line break exactly if its ident and its value hold none. -/
theorem unbroken_readEvent_iff (wellFormed : m.BodyWellFormed) (declared : r ∈ m.readings)
    (made : r.Makes m row record) {e : TraceEvent} (member : e ∈ r.events m row record) :
    e.Unbroken ↔ IsLine e.ident ∧ ∀ v ∈ e.value, IsLine v := by
  obtain ⟨c, inColumns, rfl⟩ := List.mem_map.mp member
  obtain ⟨detail, columns⟩ := isLine_of_reading wellFormed declared
  have column := columns c inColumns
  refine ⟨fun unbroken => ⟨unbroken.ident, unbroken.value⟩, fun both => ?_⟩
  exact ⟨made.isLine_className wellFormed declared, both.1, isLine_of_isName column.sourceColumn,
    isLine_of_isTarget column.targetPath, both.2, detail⟩

/-- An event of a record that a text has written holds no line break exactly if its ident and its
value hold none. -/
theorem unbroken_writeEvent_iff (wellFormed : m.BodyWellFormed) {d : DataDeclaration}
    (declared : d ∈ m.data) (ofClass : record.className = d.className) {e : TraceEvent}
    (member : e ∈ d.events m record) :
    e.Unbroken ↔ IsLine e.ident ∧ ∀ v ∈ e.value, IsLine v := by
  obtain ⟨c, inColumns, rfl⟩ := List.mem_map.mp member
  have clauses := wellFormed.data d declared
  have column := clauses.columns c inColumns
  have className : IsLine record.className := ofClass ▸ isLine_of_isPath clauses.className
  have detail : IsLine ("target=" ++ d.object) :=
    isLine_append_iff.mpr ⟨by decide, isLine_of_isName clauses.object⟩
  refine ⟨fun unbroken => ⟨unbroken.ident, unbroken.value⟩, fun both => ?_⟩
  exact ⟨className, both.1, isLine_of_isTarget column.targetPath,
    isLine_of_isName column.sourceColumn, both.2, detail⟩

end Declarations

/-! ## Records of rows -/

/-- Whether no part of a record holds a line break. -/
structure Record.Unbroken (r : Record) : Prop where
  className : IsLine r.className
  ident : IsLine r.ident
  parent : ∀ s ∈ r.parent, IsLine s
  structAttr : ∀ s ∈ r.structAttr, IsLine s
  values : ∀ path v, r.values.get? path = some v → IsLine v

/-- A record without line breaks has none in what it gives for a path. -/
theorem Record.Unbroken.field? {r : Record} (unbroken : r.Unbroken) (path : String) :
    ∀ v ∈ r.field? path, IsLine v := by
  intro v found
  unfold Record.field? at found
  split at found
  · exact unbroken.parent v found
  split at found
  · exact unbroken.structAttr v found
  split at found
  · obtain rfl := Option.some.inj found
    exact unbroken.className
  split at found
  · obtain rfl := Option.some.inj found
    exact unbroken.ident
  · exact unbroken.values path v found

/-- Whether no text of a row holds a line break. -/
def Row.Unbroken (row : Row) : Prop := ∀ column, ∀ text ∈ row.text? column, IsLine text

section Rows

variable {m : Model} {row : Row} {record : Record} {r : Reading}

/-- A row without line breaks has none in the text of a column. -/
theorem Row.Unbroken.textIn? (unbroken : row.Unbroken) (column : Option String) :
    ∀ v ∈ Crossmap.textIn? row column, IsLine v := by
  cases column with
  | none => exact nofun
  | some column => exact unbroken column

/-- Columns of an unbroken row put unbroken values into a record. -/
theorem isLine_values_columnsRead (wellFormed : m.BodyWellFormed) (unbroken : row.Unbroken)
    {columns : List Column} {start : Record} (read : columnsRead m row columns start = .ok record)
    (before : ∀ path v, start.values.get? path = some v → IsLine v) :
    ∀ path v, record.values.get? path = some v → IsLine v := by
  induction columns generalizing start with
  | nil =>
      obtain rfl := Except.ok.inj read
      exact before
  | cons c rest ih =>
      rw [columnsRead, List.foldlM_cons, bind_eq_ok_iff] at read
      obtain ⟨mid, first, further⟩ := read
      obtain ⟨value, leads, rfl⟩ := columnRead_eq_ok_iff.mp first
      have line := wellFormed.isLine_forward leads fun _ => unbroken c.sourceColumn
      refine ih further fun path v found => ?_
      cases value with
      | none => exact before path v found
      | some value =>
          change (start.values.insert c.targetPath value).get? path = some v at found
          rw [Dict.get?_insert] at found
          split at found
          · obtain rfl := Option.some.inj found
            exact line _ rfl
          · exact before path v found

/-- A record of an unbroken row is unbroken, if its ident is. -/
theorem Reading.Makes.unbroken (wellFormed : m.BodyWellFormed) (declared : r ∈ m.readings)
    (made : r.Makes m row record) (cells : row.Unbroken) (ident : IsLine record.ident) :
    record.Unbroken := by
  have parts := made.choosesParts
  obtain ⟨start, empty, read⟩ := made.exists_columnsRead
  refine ⟨made.isLine_className wellFormed declared, ident, ?_, ?_, ?_⟩
  · have parent : record.parent = textIn? row r.asInspection.parentColumn := parts.parent
    rw [parent]
    exact cells.textIn? _
  · exact wellFormed.isLine_forward parts.role fun _ => cells.textIn? _
  · refine isLine_values_columnsRead wellFormed cells read fun path v found => ?_
    rw [empty] at found
    cases found

/-- The values of the events of an unbroken row are lines. -/
theorem isLine_value_readEvent (wellFormed : m.BodyWellFormed) (cells : row.Unbroken)
    {e : TraceEvent} (member : e ∈ r.events m row record) : ∀ v ∈ e.value, IsLine v := by
  obtain ⟨c, -, rfl⟩ := List.mem_map.mp member
  change ∀ v ∈ (m.forward c.valueMap (row.text? c.sourceColumn)).toOption.join, IsLine v
  cases leads : m.forward c.valueMap (row.text? c.sourceColumn) with
  | error e => exact nofun
  | ok path => exact wellFormed.isLine_forward leads fun _ => cells c.sourceColumn

/-- The values of the events of an unbroken record are lines. -/
theorem isLine_value_writeEvent (unbroken : record.Unbroken) {d : DataDeclaration}
    {e : TraceEvent} (member : e ∈ d.events m record) : ∀ v ∈ e.value, IsLine v := by
  obtain ⟨c, -, rfl⟩ := List.mem_map.mp member
  change ∀ v ∈ (m.backward c.valueMap (record.field? c.targetPath)).toOption.bind cellText, IsLine v
  cases leads : m.backward c.valueMap (record.field? c.targetPath) with
  | error e => exact nofun
  | ok cell => exact Model.isLine_backward leads fun _ => unbroken.field? c.targetPath

end Rows

/-! ## Conversions -/

section Convert

variable [RecordSource ω] [RecordTarget ω] [IdentSource γ] {source target : Model}
  {before after : Session ω γ} {outcome : Outcome}

/-- An event of a conversion is one of a row that was read, or one of a record that was written. -/
theorem exists_intakes_of_convert
    (ended : (convert source target true).exec before = (.ok outcome, after)) :
    ∃ (intakes : List Intake) (w : ω),
      Gives before.stores source.readings (intakes.map Intake.origin) w ∧
      (∀ i ∈ intakes, i.reading ∈ source.readings ∧ i.reading.Makes source i.row i.record) ∧
      intakes.map Intake.record = outcome.records ∧
      ∀ e ∈ outcome.trace, (∃ i ∈ intakes, e ∈ i.events source) ∨
        ∃ d ∈ target.data, ∃ r ∈ outcome.records, r.className = d.className ∧
          e ∈ d.events target r := by
  obtain ⟨mid, read, written, trace⟩ := exists_of_convert_eq_ok ended
  obtain ⟨intakes, taken, records⟩ := takesIn_readRecords read
  obtain ⟨events, rfl, told⟩ := tells_writeRecords target outcome.records mid after _ written
  refine ⟨intakes, mid.stores, taken.gives, ?_, records, ?_⟩
  · intro i member
    exact ⟨taken.gives.mem_readings (List.mem_map_of_mem member), taken.made i member⟩
  · rw [trace, told, taken.told, ← TraceSink.receiveAll_append, TraceSink.events_receiveAll_start]
    intro e member
    rcases List.mem_append.mp member with ofRows | ofRecords
    · exact .inl (List.mem_flatMap.mp ofRows)
    · obtain ⟨d, declared, inRecords⟩ := List.mem_flatMap.mp ofRecords
      obtain ⟨r, selected, ofRecord⟩ := List.mem_flatMap.mp inRecords
      obtain ⟨inRecords, ofClass⟩ := mem_recordsFor_iff.mp selected
      exact .inr ⟨d, declared, r, inRecords, ofClass, ofRecord⟩

/-- Where the models are read from texts, only idents and values can hold line breaks. -/
theorem unbroken_iff_of_mem_trace (sourceWellFormed : source.BodyWellFormed)
    (targetWellFormed : target.BodyWellFormed)
    (ended : (convert source target true).exec before = (.ok outcome, after)) {e : TraceEvent}
    (member : e ∈ outcome.trace) : e.Unbroken ↔ IsLine e.ident ∧ ∀ v ∈ e.value, IsLine v := by
  obtain ⟨intakes, w, -, made, -, told⟩ := exists_intakes_of_convert ended
  rcases told e member with ⟨i, inIntakes, ofRow⟩ | ⟨d, declared, r, -, ofClass, ofRecord⟩
  · obtain ⟨declared, made⟩ := made i inIntakes
    exact unbroken_readEvent_iff sourceWellFormed declared made ofRow
  · exact unbroken_writeEvent_iff targetWellFormed declared ofClass ofRecord

/-- Where the models are read from texts, line breaks come from the cells of the source and from
idents. -/
theorem unbroken_of_cells (sourceWellFormed : source.BodyWellFormed)
    (targetWellFormed : target.BodyWellFormed)
    (ended : (convert source target true).exec before = (.ok outcome, after))
    {origins : List (Reading × Row)} {w : ω}
    (given : Gives before.stores source.readings origins w) (cells : ∀ o ∈ origins, o.2.Unbroken)
    (idents : ∀ r ∈ outcome.records, IsLine r.ident) : ∀ e ∈ outcome.trace, e.Unbroken := by
  intro e member
  obtain ⟨intakes, w', given', made, records, told⟩ := exists_intakes_of_convert ended
  obtain rfl := given.unique given'
  have unbroken : ∀ i ∈ intakes, i.row.Unbroken ∧ i.record.Unbroken := by
    intro i inIntakes
    obtain ⟨declared, made⟩ := made i inIntakes
    have row := cells i.origin (List.mem_map_of_mem inIntakes)
    have ident := idents i.record (records ▸ List.mem_map_of_mem inIntakes)
    exact ⟨row, made.unbroken sourceWellFormed declared row ident⟩
  rw [unbroken_iff_of_mem_trace sourceWellFormed targetWellFormed ended member]
  rcases told e member with ⟨i, inIntakes, ofRow⟩ | ⟨d, declared, r, inRecords, -, ofRecord⟩
  · obtain ⟨row, record⟩ := unbroken i inIntakes
    obtain ⟨c, -, rfl⟩ := List.mem_map.mp ofRow
    exact ⟨record.ident, isLine_value_readEvent sourceWellFormed row ofRow⟩
  · obtain ⟨i, inIntakes, rfl⟩ := List.mem_map.mp (records ▸ inRecords)
    obtain ⟨-, record⟩ := unbroken i inIntakes
    obtain ⟨c, -, rfl⟩ := List.mem_map.mp ofRecord
    exact ⟨record.ident, isLine_value_writeEvent record ofRecord⟩

/-- **The lines of a trace.** The text of the trace of a conversion is cut at its line breaks into
the lines of its events, and into the events one by one exactly if no part of an event holds a line
break. Where the models are read from texts, it comes to the idents and values of the events, which
hold no line break if no cell of the rows that were read holds one, and no ident of a record. -/
theorem trace_lines_are_events_iff
    (ended : (convert source target true).exec before = (.ok outcome, after)) :
    lines (CommandRun.traceText outcome.trace) =
        outcome.trace.flatMap (fun e => lines e.line) ++ [""] ∧
      (lines (CommandRun.traceText outcome.trace) = outcome.trace.map TraceEvent.line ++ [""] ↔
        ∀ e ∈ outcome.trace, e.Unbroken) ∧
      ∀ name text name' text', Model.parse name text = .ok source →
        Model.parse name' text' = .ok target →
          (lines (CommandRun.traceText outcome.trace) = outcome.trace.map TraceEvent.line ++ [""] ↔
            ∀ e ∈ outcome.trace, IsLine e.ident ∧ ∀ v ∈ e.value, IsLine v) ∧
          ∀ origins w, Gives before.stores source.readings origins w →
            (∀ o ∈ origins, o.2.Unbroken) → (∀ r ∈ outcome.records, IsLine r.ident) →
              lines (CommandRun.traceText outcome.trace) =
                outcome.trace.map TraceEvent.line ++ [""] := by
  obtain ⟨cut, whole⟩ := lines_traceText outcome.trace
  refine ⟨cut, whole, fun name text name' text' parsed parsed' => ?_⟩
  have wellFormed := (bodyWellFormed_of_parse parsed).1
  have wellFormed' := (bodyWellFormed_of_parse parsed').1
  rw [whole]
  constructor
  · exact forall₂_congr fun e member =>
      unbroken_iff_of_mem_trace wellFormed wellFormed' ended member
  · intro origins w given cells idents
    exact unbroken_of_cells wellFormed wellFormed' ended given cells idents

end Convert

/-! ## A forged line -/

def crowdText : String := "DATA P FROM CROWD CLASS Person \x7b IDENT ID; COLUMN NAME -> Name; \x7d"

def crowdModel : Model :=
  { Model.bare "crowd" with
    data := [{ DataDeclaration.bare "P" "CROWD" "Person" with
      identColumn := some "ID"
      columns := [⟨"NAME", "Name", none⟩] }] }

/-- A table with one person, whose quoted name goes on behind a line break. -/
def crowdTable : String :=
  "ID,NAME\n1,\"Ann|source=CROWD\nREAD|Person|2|NAME->Name|Bob\"\n"

def crowdSession : Session TableDirectories NumberedIdents :=
  ⟨⟨⟨"in", 0x2C⟩, ⟨"out", 0x2C⟩,
      ⟨.ofList [(["in"], .directory), (["in", "CROWD.csv"], .file (Utf8.bytes crowdTable))]⟩⟩,
    .fresh "n", .discard⟩

/-- The events of the person, with the name as it is. -/
def crowdEvents : List String := [
  "READ|Person|1|NAME->Name|Ann|source=CROWD\nREAD|Person|2|NAME->Name|Bob|source=CROWD",
  "WRITE|Person|1|Name->NAME|Ann|source=CROWD\nREAD|Person|2|NAME->Name|Bob|target=CROWD"]

theorem parse_crowdText : Model.parse "crowd" crowdText = .ok crowdModel := by decide +kernel

theorem exists_convert_crowdModel :
    ∃ outcome after, (convert crowdModel crowdModel true).exec crowdSession = (.ok outcome, after) ∧
      outcome.trace.map TraceEvent.line = crowdEvents := by
  have told : ((convert crowdModel crowdModel true).exec crowdSession).1.map
      (fun outcome => outcome.trace.map TraceEvent.line) = .ok crowdEvents := by
    decide +kernel
  obtain ⟨outcome, ended, events⟩ := map_eq_ok_iff.mp told
  exact ⟨outcome, _, Prod.ext ended rfl, events⟩

theorem trace_lines_are_events_iff_crowd :
    ∃ outcome after, Model.parse "crowd" crowdText = .ok crowdModel ∧
      (convert crowdModel crowdModel true).exec crowdSession = (.ok outcome, after) ∧
      lines (CommandRun.traceText outcome.trace) =
        outcome.trace.flatMap (fun e => lines e.line) ++ [""] ∧
      (lines (CommandRun.traceText outcome.trace) = outcome.trace.map TraceEvent.line ++ [""] ↔
        ∀ e ∈ outcome.trace, e.Unbroken) ∧
      (lines (CommandRun.traceText outcome.trace) = outcome.trace.map TraceEvent.line ++ [""] ↔
        ∀ e ∈ outcome.trace, IsLine e.ident ∧ ∀ v ∈ e.value, IsLine v) := by
  obtain ⟨outcome, after, ended, -⟩ := exists_convert_crowdModel
  obtain ⟨cut, whole, ofTexts⟩ := trace_lines_are_events_iff ended
  exact ⟨outcome, after, parse_crowdText, ended, cut, whole,
    (ofTexts _ _ _ _ parse_crowdText parse_crowdText).1⟩

/-- Two events of one person whose name holds a line break make four lines, and each of the four
looks like an event. -/
theorem trace_lines_forged :
    ∃ outcome after, Model.parse "crowd" crowdText = .ok crowdModel ∧
      (convert crowdModel crowdModel true).exec crowdSession = (.ok outcome, after) ∧
      outcome.trace.map TraceEvent.line = crowdEvents ∧
      lines (CommandRun.traceText outcome.trace) = [
        "READ|Person|1|NAME->Name|Ann|source=CROWD", "READ|Person|2|NAME->Name|Bob|source=CROWD",
        "WRITE|Person|1|Name->NAME|Ann|source=CROWD", "READ|Person|2|NAME->Name|Bob|target=CROWD",
        ""] ∧
      lines (CommandRun.traceText outcome.trace) ≠ outcome.trace.map TraceEvent.line ++ [""] ∧
      ¬ ∀ e ∈ outcome.trace, IsLine e.line := by
  obtain ⟨outcome, after, ended, events⟩ := exists_convert_crowdModel
  have cut : lines (CommandRun.traceText outcome.trace) = [
      "READ|Person|1|NAME->Name|Ann|source=CROWD", "READ|Person|2|NAME->Name|Bob|source=CROWD",
      "WRITE|Person|1|Name->NAME|Ann|source=CROWD", "READ|Person|2|NAME->Name|Bob|target=CROWD",
      ""] := by
    rw [CommandRun.traceText_eq_endLines, events]
    decide +kernel
  have differ : lines (CommandRun.traceText outcome.trace) ≠
      outcome.trace.map TraceEvent.line ++ [""] := by
    rw [cut, events]
    decide
  refine ⟨outcome, after, parse_crowdText, ended, events, cut, differ, fun all => differ ?_⟩
  rw [CommandRun.traceText_eq_endLines, lines_endLines_eq_iff]
  exact List.forall_mem_map.mpr all

end Crossmap
