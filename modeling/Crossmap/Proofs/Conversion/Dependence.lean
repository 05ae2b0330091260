import Crossmap.Proofs.Conversion.ColumnCase
import Crossmap.Proofs.Conversion.Fields
import Crossmap.Proofs.Conversion.Lookups

/-! # The columns that a record depends on

A declaration consults certain columns of every row that it reads: its ident column, and those of
`Reading.Consults`. What is made of a row depends on these columns and on no others
(`Reading.dependsOn_iff`): rows that agree in them are read alike, and for each of them there are
rows that agree in all other columns and are not read alike.
-/

namespace Crossmap

open Mapping

variable {ω γ : Type}

/-! ## Rows that agree but for a column -/

namespace Row

variable {row row' : Row} {name column : String} {cell : Cell}

theorem sameIgnoringCase_comm (name name' : String) :
    Text.sameIgnoringCase name name' = Text.sameIgnoringCase name' name := by
  rw [Bool.eq_iff_iff, sameIgnoringCase_iff, sameIgnoringCase_iff, eq_comm]

/-- Names that are the same but for case agree with the same names. -/
theorem sameIgnoringCase_congr {name name' : String}
    (same : Text.sameIgnoringCase name name' = true) (other : String) :
    Text.sameIgnoringCase other name = Text.sameIgnoringCase other name' := by
  rw [Bool.eq_iff_iff, sameIgnoringCase_iff, sameIgnoringCase_iff, sameIgnoringCase_iff.mp same]

/-- Whether the same cells are found in two rows, except in a column in whatever case. -/
def AgreesBut (column : String) (row row' : Row) : Prop :=
  ∀ name, Text.sameIgnoringCase name column = false → row.cell? name = row'.cell? name

/-- Whether no column of a row has a name, in whatever case. -/
def Lacks (row : Row) (column : String) : Prop :=
  ∀ name ∈ row.keys, Text.sameIgnoringCase name column = false

theorem lacks_empty : Lacks Dict.empty column := by
  intro name member
  cases member

/-- A row is found not to have a column exactly if it lacks it. -/
theorem hasColumn_eq_false_iff : row.hasColumn column = false ↔ row.Lacks column := by
  rw [hasColumn, Bool.or_eq_false_iff, List.any_eq_false]
  simp only [Bool.not_eq_true]
  refine ⟨And.right, fun lacks => ⟨?_, lacks⟩⟩
  rw [← Bool.not_eq_true, Dict.contains_eq_true_iff]
  intro member
  have self : Text.sameIgnoringCase column column = true := sameIgnoringCase_iff.mpr rfl
  rw [lacks column member] at self
  cases self

/-- There is no cell in a column that a row lacks. -/
theorem Lacks.cell?_eq_none (lacks : row.Lacks column) : row.cell? column = none := by
  have absent := hasColumn_eq_false_iff.mpr lacks
  rwa [hasColumn_eq_isSome, Option.isSome_eq_false_iff, Option.isNone_iff_eq_none] at absent

/-- A row has a cell in every column that it does not lack. -/
theorem exists_cell_of_not_lacks (has : ¬ row.Lacks column) :
    ∃ cell, row.cell? column = some cell := by
  rw [← hasColumn_eq_false_iff, Bool.not_eq_false, hasColumn_eq_isSome] at has
  exact Option.isSome_iff_exists.mp has

/-- A row that lacks a column lacks it in every case. -/
theorem Lacks.of_same (lacks : row.Lacks column)
    (same : Text.sameIgnoringCase name column = true) : row.Lacks name := by
  intro key member
  rw [sameIgnoringCase_congr same]
  exact lacks key member

/-- A cell that is found stands in the row under some name. -/
theorem mem_of_cell?_eq_some (found : row.cell? column = some cell) :
    ∃ name, (name, cell) ∈ row.entries := by
  rw [cell?, Option.or_eq_some_iff, Dict.get?_eq_some_iff] at found
  rcases found with exact | ⟨-, other⟩
  · exact ⟨column, exact⟩
  · obtain ⟨⟨name, _⟩, entry, rfl⟩ := Option.map_eq_some_iff.mp other
    exact ⟨name, List.mem_of_find?_eq_some entry⟩

/-- A cell is found under the very name that it was put under. -/
theorem cell?_insert_self : cell? (row.insert name cell) name = some cell := by
  rw [cell?, Dict.get?_insert_self, Option.some_or]

/-- A new cell is not seen under other names. -/
theorem agreesBut_insert (same : Text.sameIgnoringCase name column = true)
    (lacks : row.Lacks column) : row.AgreesBut column (row.insert name cell) := by
  intro other apart
  have new : name ∉ row.keys := fun member => by
    rw [lacks name member] at same
    cases same
  have unlike : Text.sameIgnoringCase name other = false := by
    rw [sameIgnoringCase_comm, sameIgnoringCase_congr same, apart]
  have ne : other ≠ name := by
    rintro rfl
    rw [apart] at same
    cases same
  rw [cell?, cell?, Dict.get?_insert, if_neg ne, cellIgnoringCase?, cellIgnoringCase?,
    Dict.entries_insert_of_notMem row new, List.find?_append, List.find?_singleton, unlike]
  simp

end Row

/-! ## Columns that are consulted -/

namespace Reading

/-- Whether a declaration looks a column up in the rows that it reads, besides its ident column. -/
inductive Consults : Reading → String → Prop
  | parent {i : Inspection} {column : String} (declared : i.parentColumn = some column) :
      Consults (.inspection i) column
  | role {i : Inspection} {column : String} (declared : i.structAttrColumn = some column) :
      Consults (.inspection i) column
  | chosenClass {i : Inspection} {column : String} (declared : i.classColumn = some column) :
      Consults (.inspection i) column
  | column {r : Reading} {c : Column} (member : c ∈ r.columns) : Consults r c.sourceColumn

/-- The columns that are looked up in the rows, besides the ident column. -/
def columnsRead : Reading → List String
  | .data d => d.columnsRead
  | .inspection i => i.columnsRead

variable {r : Reading} {m : Model} {row row' : Row} {column : String}

/-- The columns that are looked up are those that the declaration consults. -/
theorem mem_columnsRead_iff : column ∈ r.columnsRead ↔ r.Consults column := by
  constructor
  · intro member
    cases r with
    | data d =>
        obtain ⟨c, inColumns, rfl⟩ := List.mem_map.mp member
        exact .column inColumns
    | inspection i =>
        simp only [columnsRead, Inspection.columnsRead, List.mem_append, Option.mem_toList,
          List.mem_map] at member
        rcases member with ((parent | role) | chosen) | ⟨c, inColumns, rfl⟩
        · exact .parent parent
        · exact .role role
        · exact .chosenClass chosen
        · exact .column inColumns
  · intro consults
    cases consults with
    | parent declared | role declared | chosenClass declared =>
        simp [columnsRead, Inspection.columnsRead, declared]
    | @column _ c member =>
        cases r with
        | data d => exact List.mem_map_of_mem member
        | inspection i => exact List.mem_append_right _ (List.mem_map_of_mem member)

variable [IdentSource γ]

/-- Rows with the same texts in the columns that are consulted are read alike. -/
theorem readRow_congr (m : Model)
    (texts : ∀ column, r.identColumn = some column ∨ r.Consults column →
      row.text? column = row'.text? column) :
    (r.readRow m row : Run ω γ ConversionError Record) = r.readRow m row' := by
  have ident : ∀ column ∈ r.identColumn, row.text? column = row'.text? column :=
    fun column declared => texts column (.inl declared)
  have columns : ∀ column ∈ r.columnsRead, row.text? column = row'.text? column :=
    fun column member => texts column (.inr (mem_columnsRead_iff.mp member))
  cases r with
  | data d => exact readDataRow_congr m ident columns
  | inspection i => exact inspectRow_congr m ident columns

/-- Reading a row does the lookups for it and can fail in no other way. -/
theorem looksUp_readRow (invariant : ω → Prop) (m : Model) (r : Reading) (row : Row) :
    (r.readRow m row : Run ω γ ConversionError Record).LooksUp invariant m (r.lookups row) := by
  cases r with
  | data d => exact looksUp_readDataRow m d row
  | inspection i => exact looksUp_inspectRow m i row

/-- Reading a row tells the events of its columns. -/
theorem tells_readRow (m : Model) (r : Reading) (row : Row) :
    (r.readRow m row : Run ω γ ConversionError Record).Tells
      fun record events => events = r.events m row record := by
  cases r with
  | data d => exact tells_readDataRow m d row
  | inspection i => exact tells_inspectRow m i row

/-! ## Rows of texts that pass -/

/-- Whether a row holds an ident, and no text but the one that passes value maps unchanged. -/
structure PassedBy (r : Reading) (row : Row) : Prop where
  ident : ∀ column, r.identColumn = some column → ∃ cell, row.cell? column = some cell
  cells : ∀ name cell, row.cell? name = some cell → cell = .string passThrough

omit [IdentSource γ] in
/-- Every lookup resolves for a row that holds nothing but the text that passes unchanged. -/
theorem PassedBy.resolve (passed : r.PassedBy row) (m : Model) :
    ∀ l ∈ r.lookups row, l.Resolves m := by
  have ident : ∀ l ∈ identLookups r.object r.identColumn row, l.Resolves m := by
    intro l member
    obtain ⟨column, declared, rfl⟩ := List.mem_map.mp member
    obtain ⟨cell, found⟩ := passed.ident column (Option.mem_toList.mp declared)
    refine ⟨cell, found, ?_⟩
    rw [passed.cells column cell found]
    exact nofun
  have passes (column : String) : ∀ t ∈ row.text? column, t = passThrough := by
    intro t member
    obtain ⟨cell, found, told⟩ := Option.bind_eq_some_iff.mp member
    rw [passed.cells column cell found] at told
    exact (Option.some.inj told).symm
  have paths (map : Option String) {text : Option String} (all : ∀ t ∈ text, t = passThrough) :
      ∀ l ∈ pathLookups map text, l.Resolves m := by
    intro l member
    obtain ⟨name, -, rfl⟩ := List.mem_map.mp member
    exact fun t inText => .inl (all t inText)
  have optional (column : Option String) : ∀ t ∈ textIn? row column, t = passThrough := by
    cases column with
    | none => exact nofun
    | some column => exact passes column
  have columns (cs : List Column) : ∀ l ∈ columnLookups row cs, l.Resolves m := by
    intro l member
    obtain ⟨c, -, inPaths⟩ := List.mem_flatMap.mp member
    exact paths c.valueMap (passes c.sourceColumn) l inPaths
  cases r with
  | data d => exact List.forall_mem_append.mpr ⟨ident, columns d.columns⟩
  | inspection i =>
      refine List.forall_mem_append.mpr ⟨ident, List.forall_mem_append.mpr ⟨?_, ?_⟩⟩
      · exact paths i.structAttrMap (optional i.structAttrColumn)
      · exact List.forall_mem_append.mpr
          ⟨paths i.classMap (optional i.classColumn), columns i.columns⟩

/-- Rows of texts that pass are read well. -/
theorem PassedBy.exec_readRow (passed : r.PassedBy row) (m : Model) (s : Session ω γ) :
    ∃ record s', (r.readRow m row).exec s = (.ok record, s') := by
  obtain ⟨well, -⟩ := (looksUp_readRow (fun _ => True) m r row).ends s trivial
  exact Run.exists_exec_eq_ok (well.mpr (passed.resolve m))

/-- The row with an ident only, if a column is declared for it. -/
def identOnly (r : Reading) : Row :=
  match r.identColumn with
  | some column => Dict.empty.insert column (.string passThrough)
  | none => .empty

omit [IdentSource γ] in
/-- The row with an ident only passes unchanged. -/
theorem passedBy_identOnly (r : Reading) : r.PassedBy r.identOnly := by
  unfold identOnly
  constructor
  · intro column declared
    rw [declared]
    exact ⟨_, Row.cell?_insert_self⟩
  · intro name cell found
    obtain ⟨key, entry⟩ := Row.mem_of_cell?_eq_some found
    split at entry
    case h_1 =>
      exact congrArg Prod.snd (List.mem_singleton.mp entry)
    case h_2 => cases entry

omit [IdentSource γ] in
/-- The row with an ident only lacks every other column. -/
theorem lacks_identOnly
    (apart : ∀ name, r.identColumn = some name → Text.sameIgnoringCase name column = false) :
    r.identOnly.Lacks column := by
  intro name member
  unfold identOnly at member
  split at member
  case h_1 ident declared =>
    obtain rfl := List.mem_singleton.mp member
    exact apart name declared
  case h_2 => cases member

end Reading

namespace Mapping.Model

variable {m : Model} {map : Option String}

theorem forward_none : m.forward map none = .ok none := by
  cases map with
  | none => rfl
  | some name => rfl

/-- A text that writes no code leads to nothing but itself. -/
theorem eq_of_forward_eq_ok {text : String} {path : Option String}
    (unwritten : Code.ofText? text = none) (leads : m.forward map (some text) = .ok path) :
    path = some text := by
  cases map with
  | none => exact (Except.ok.inj leads).symm
  | some name =>
      change m.forwardThrough name text = .ok path at leads
      unfold forwardThrough at leads
      by_cases passes : text = passThrough
      · rw [if_pos passes] at leads
        exact (Except.ok.inj leads).symm
      · rw [if_neg passes, bind_eq_ok_iff] at leads
        obtain ⟨v, -, chosen⟩ := leads
        rw [unwritten] at chosen
        cases chosen

end Mapping.Model

/-! ## Dependence -/

namespace Reading

variable [IdentSource γ] {r : Reading} {m : Model} {row : Row} {column consulted : String}

/-- Whether what is made of a row depends on a column: of two rows that agree in all others,
different things are made. -/
def DependsOn (ω γ : Type) [IdentSource γ] (m : Model) (r : Reading) (column : String) : Prop :=
  ∃ row row' : Row, row.AgreesBut column row' ∧
    (r.readRow m row : Run ω γ ConversionError Record) ≠ r.readRow m row'

omit [IdentSource γ] in
/-- A text is found in the column that it was put in. -/
theorem text?_insert_self {text : String} :
    Row.text? (row.insert consulted (.string text)) consulted = some text := by
  rw [Row.text?, Row.cell?_insert_self]
  rfl

omit [IdentSource γ] in

/-- The events of rows with and without a text in the source of a column are not the same. -/
theorem events_insert_ne {c : Column} (member : c ∈ r.columns)
    (absent : row.text? c.sourceColumn = none) (record : Record) :
    r.events m row record ≠
      r.events m (row.insert c.sourceColumn (.string passThrough)) record := by
  intro same
  have value := congrArg TraceEvent.value (List.map_inj_left.mp same c member)
  rw [readEvent, readEvent, absent, text?_insert_self, Model.forward_none,
    Model.forward_passThrough] at value
  cases value

/-- A new cell in a column that is consulted shows in the record or in the trace. -/
theorem exists_readRow_insert_ne [Nonempty ω] [Nonempty γ] (m : Model)
    (consults : r.Consults consulted) (passed : r.PassedBy row)
    (absent : row.text? consulted = none) :
    ∃ text, (r.readRow m row : Run ω γ ConversionError Record) ≠
      r.readRow m (row.insert consulted (.string text)) := by
  obtain ⟨stores⟩ := ‹Nonempty ω›
  obtain ⟨idents⟩ := ‹Nonempty γ›
  obtain ⟨record, after, read⟩ :=
    passed.exec_readRow m (⟨stores, idents, .start true⟩ : Session ω γ)
  have parts := (makes_of_readRow read).choosesParts
  -- If the rows were read alike, one record and one list of events would come of both.
  cases consults with
  | @parent i _ declared =>
      refine ⟨passThrough, fun same => ?_⟩
      have parts' := (makes_of_readRow (same ▸ read)).choosesParts
      have told := parts.parent.symm.trans parts'.parent
      rw [asInspection, declared] at told
      cases absent.symm.trans (told.trans text?_insert_self)
  | @role i _ declared =>
      refine ⟨passThrough, fun same => ?_⟩
      have parts' := (makes_of_readRow (same ▸ read)).choosesParts
      have told := parts.role
      have told' := parts'.role
      rw [asInspection, declared, textIn?, Option.bind_some] at told told'
      rw [absent, Model.forward_none] at told
      rw [text?_insert_self, Model.forward_passThrough, ← told] at told'
      cases told'
  | @chosenClass i _ declared =>
      -- The text must be other than the class that the record has without one.
      obtain ⟨text, unwritten, other⟩ :
          ∃ text, Code.ofText? text = none ∧ text ≠ i.className := by
        by_cases taken : i.className = passThrough
        · exact ⟨"#", by decide, taken ▸ by decide⟩
        · exact ⟨passThrough, by decide, Ne.symm taken⟩
      refine ⟨text, fun same => ?_⟩
      obtain ⟨chosen, leads, named⟩ := parts.className
      obtain ⟨chosen', leads', named'⟩ := (makes_of_readRow (same ▸ read)).choosesParts.className
      rw [asInspection, declared, textIn?, Option.bind_some] at leads leads'
      rw [absent, Model.forward_none] at leads
      rw [text?_insert_self] at leads'
      obtain rfl := Except.ok.inj leads
      obtain rfl := Model.eq_of_forward_eq_ok unwritten leads'
      exact other (Option.some.inj (named'.symm.trans named))
  | @column _ c member =>
      refine ⟨passThrough, fun same => ?_⟩
      obtain ⟨events, rfl, told⟩ := tells_readRow m r row _ _ _ read
      obtain ⟨events', rfl, told'⟩ := tells_readRow m r _ _ _ _ (same ▸ read)
      have equal := congrArg TraceSink.events (told.symm.trans told')
      rw [TraceSink.events_receiveAll_start, TraceSink.events_receiveAll_start] at equal
      exact events_insert_ne member absent record equal

/-- A row without an ident is not read, and one with an ident is. -/
theorem readRow_identOnly_ne [Nonempty ω] [Nonempty γ] (m : Model)
    (declared : r.identColumn = some consulted) :
    (r.readRow m Dict.empty : Run ω γ ConversionError Record) ≠ r.readRow m r.identOnly := by
  obtain ⟨stores⟩ := ‹Nonempty ω›
  obtain ⟨idents⟩ := ‹Nonempty γ›
  intro same
  obtain ⟨record, after, read⟩ :=
    r.passedBy_identOnly.exec_readRow m (⟨stores, idents, .discard⟩ : Session ω γ)
  obtain ⟨well, -⟩ := (looksUp_readRow (fun _ => True) m r Dict.empty).ends
    (⟨stores, idents, .discard⟩ : Session ω γ) trivial
  rw [same, read] at well
  have ident : Lookup.ident r.object consulted Dict.empty ∈ r.lookups Dict.empty := by
    cases r with
    | data d | inspection i =>
        refine List.mem_append_left _ (List.mem_map.mpr ⟨consulted, ?_, rfl⟩)
        exact Option.mem_toList.mpr declared
  obtain ⟨cell, found, -⟩ := well.mp rfl _ ident
  cases found

/-- **A record depends on the columns that are consulted**, in whatever case they are written, and
on no others. -/
theorem dependsOn_iff [Nonempty ω] [Nonempty γ] :
    r.DependsOn ω γ m column ↔
      ∃ consulted, (r.identColumn = some consulted ∨ r.Consults consulted) ∧
        Text.sameIgnoringCase consulted column = true := by
  constructor
  · rintro ⟨row, row', agree, differ⟩
    by_contra none
    refine differ (readRow_congr m fun consulted consults => ?_)
    have apart : Text.sameIgnoringCase consulted column = false := by
      rw [← Bool.not_eq_true]
      exact fun same => none ⟨consulted, consults, same⟩
    rw [Row.text?, Row.text?, agree consulted apart]
  · rintro ⟨consulted, consults, same⟩
    by_cases ident : ∃ name, r.identColumn = some name ∧ Text.sameIgnoringCase name column = true
    · obtain ⟨name, declared, same⟩ := ident
      refine ⟨Dict.empty, r.identOnly, ?_, readRow_identOnly_ne m declared⟩
      rw [identOnly, declared]
      exact Row.agreesBut_insert same Row.lacks_empty
    · have apart : ∀ name, r.identColumn = some name →
          Text.sameIgnoringCase name column = false := by
        intro name declared
        rw [← Bool.not_eq_true]
        exact fun same => ident ⟨name, declared, same⟩
      have other : r.identColumn ≠ some consulted := fun declared =>
        ident ⟨consulted, declared, same⟩
      have lacks : r.identOnly.Lacks column := lacks_identOnly apart
      have absent : r.identOnly.text? consulted = none := by
        rw [Row.text?, (lacks.of_same same).cell?_eq_none, Option.bind_none]
      obtain ⟨text, differ⟩ := exists_readRow_insert_ne (ω := ω) (γ := γ) m
        (consults.resolve_left other) r.passedBy_identOnly absent
      exact ⟨_, _, Row.agreesBut_insert same lacks, differ⟩

end Reading

end Crossmap
