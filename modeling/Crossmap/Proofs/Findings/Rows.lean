import Crossmap.Proofs.Conversion.Dependence
import Crossmap.Proofs.Conversion.Gates
import Crossmap.Proofs.Mapping.Rendering

/-! # What source rows lack

A check of source rows tells of every column that a declaration consults and that one of the rows
that it reads lacks (`Reading.Lacks`), once and of nothing else (`missingColumns_exact`). The
columns that are consulted are those on which the records depend. Where nothing is missing, every
lookup of a conversion finds a cell, and an ident is missing only where a null stands for it.
-/

namespace Crossmap

open Mapping

variable {ω γ : Type}

/-! ## Messages -/

/-- Two texts without spaces are found again in front of and behind what stands between them. -/
theorem eq_of_append_in_source {a b a' b' : String} (unspaced : ' ' ∉ a.toList)
    (unspaced' : ' ' ∉ b.toList) (same : a ++ " in source " ++ b = a' ++ " in source " ++ b') :
    a = a' ∧ b = b' := by
  have chars := congrArg String.toList same
  have words : " in source ".toList = ' ' :: "in source ".toList := rfl
  simp only [String.toList_append, List.append_assoc] at chars
  -- The spaces between the texts are all there are, so the other texts have none either.
  have spaces := congrArg (List.count ' ') chars
  simp only [List.count_append, List.count_eq_zero.mpr unspaced,
    List.count_eq_zero.mpr unspaced'] at spaces
  have none : ' ' ∉ a'.toList := List.count_eq_zero.mp (by omega)
  rw [words, List.cons_append] at chars
  have cut {cs rest : List Char} (absent : ' ' ∉ cs) :=
    @Text.span_append (· != ' ') cs (' ' :: rest)
      (fun c member => bne_iff_ne.mpr fun same => absent (same ▸ member))
      (fun c first => by obtain rfl := Option.some.inj first; rfl)
  obtain ⟨front, behind⟩ := cut unspaced
  obtain ⟨front', behind'⟩ := cut none
  rw [chars] at front behind
  have tails := List.cons.inj (behind.symm.trans behind')
  exact ⟨String.toList_inj.mp (front.symm.trans front'),
    String.toList_inj.mp (List.append_cancel_left tails.2)⟩

namespace RowFinding

variable {f f' : RowFinding}

/-- Whether a finding names a column and an object without spaces. -/
def Unspaced : RowFinding → Prop
  | .missingIdent column object | .missingColumn column object =>
    ' ' ∉ column.toList ∧ ' ' ∉ object.toList

/-- How a missing ident column is told. -/
theorem message_missingIdent (column object : String) :
    (missingIdent column object).message =
      "Missing ident column " ++ column ++ " in source " ++ object := rfl

/-- How a missing column is told. -/
theorem message_missingColumn (column object : String) :
    (missingColumn column object).message =
      "Missing column " ++ column ++ " in source " ++ object := rfl

/-- A missing ident column is never told as a missing column. -/
theorem message_missingIdent_ne (column object column' object' : String) :
    (missingIdent column object).message ≠ (missingColumn column' object').message := by
  intro same
  rw [message_missingIdent, message_missingColumn] at same
  have letter := congrArg (fun s : String => s.toList[8]?) same
  simp at letter

/-- A message without spaces in its names is that of one finding only. -/
theorem eq_of_message_eq (unspaced : f.Unspaced) (same : f.message = f'.message) : f = f' := by
  cases f with
  | missingIdent column object =>
      cases f' with
      | missingIdent column' object' =>
          rw [message_missingIdent, message_missingIdent] at same
          simp only [String.append_assoc, String.append_right_inj] at same
          rw [← String.append_assoc, ← String.append_assoc] at same
          obtain ⟨rfl, rfl⟩ := eq_of_append_in_source unspaced.1 unspaced.2 same
          rfl
      | missingColumn => exact (message_missingIdent_ne _ _ _ _ same).elim
  | missingColumn column object =>
      cases f' with
      | missingIdent => exact (message_missingIdent_ne _ _ _ _ same.symm).elim
      | missingColumn column' object' =>
          rw [message_missingColumn, message_missingColumn] at same
          simp only [String.append_assoc, String.append_right_inj] at same
          rw [← String.append_assoc, ← String.append_assoc] at same
          obtain ⟨rfl, rfl⟩ := eq_of_append_in_source unspaced.1 unspaced.2 same
          rfl

end RowFinding

/-! ## What a check of rows tells -/

namespace Reading

variable {answer : String → Filter → List Row} {r : Reading} {f : RowFinding}

/-- What a declaration consults and one of the rows that it reads lacks. -/
inductive Lacks (answer : String → Filter → List Row) (r : Reading) : RowFinding → Prop
  | ident {column : String} {row : Row} (declared : r.identColumn = some column)
      (read : row ∈ answer r.object r.filter) (lacks : row.Lacks column) :
      Lacks answer r (.missingIdent column r.object)
  | column {column : String} {row : Row} (consults : r.Consults column)
      (read : row ∈ answer r.object r.filter) (lacks : row.Lacks column) :
      Lacks answer r (.missingColumn column r.object)

/-- What the rows of a declaration lack, row by row. -/
def rowFindings (answer : String → Filter → List Row) (r : Reading) : List RowFinding :=
  (answer r.object r.filter).flatMap (Row.findings r.object r.identColumn r.columnsRead)

/-- The findings on a reading are what its first row lacks. -/
theorem mem_rowFindings_iff : f ∈ r.rowFindings answer ↔ r.Lacks answer f := by
  have lacking {names : List String} {row : Row} {c : String} :
      (c ∈ names.filter fun c => !row.hasColumn c) ↔ c ∈ names ∧ row.Lacks c := by
    rw [List.mem_filter, Bool.not_eq_true', Row.hasColumn_eq_false_iff]
  simp only [rowFindings, List.mem_flatMap, Row.findings, List.mem_append, List.mem_map, lacking,
    Option.mem_toList, mem_columnsRead_iff]
  constructor
  · rintro ⟨row, read, ⟨c, ⟨declared, lacks⟩, rfl⟩ | ⟨c, ⟨consults, lacks⟩, rfl⟩⟩
    · exact .ident declared read lacks
    · exact .column consults read lacks
  · intro found
    cases found with
    | ident declared read lacks => exact ⟨_, read, .inl ⟨_, ⟨declared, lacks⟩, rfl⟩⟩
    | column consults read lacks => exact ⟨_, read, .inr ⟨_, ⟨consults, lacks⟩, rfl⟩⟩

end Reading

section Check

variable [RecordSource ω] {answer : String → Filter → List Row}

/-- Sources that always answer alike give these answers to reads. -/
theorem returns_readRows (object : String) (filter : Filter) :
    (Run.readRows object filter : Run ω γ StorageError _).Returns
      (AnswersAlways fun o f => .ok (answer o f)) (answer object filter) := by
  intro s always
  exact ⟨_, always.later object filter, Prod.ext (always.now object filter) rfl⟩

/-- A check of rows comes to the messages of what the rows of the declarations lack, each once. -/
theorem returns_missingColumns (m : Model) :
    (missingColumns m : Run ω γ StorageError (List String)).Returns
      (AnswersAlways fun o f => .ok (answer o f))
      ((m.readings.flatMap (Reading.rowFindings answer)).map RowFinding.message).eraseDups := by
  have data (d : DataDeclaration) : (dataRowFindings d : Run ω γ StorageError _).Returns
      (AnswersAlways fun o f => .ok (answer o f)) ((Reading.data d).rowFindings answer) :=
    (returns_readRows d.object d.filter).bind (Run.returns_pure _)
  have inspection (i : Inspection) : (inspectedRowFindings i : Run ω γ StorageError _).Returns
      (AnswersAlways fun o f => .ok (answer o f)) ((Reading.inspection i).rowFindings answer) :=
    (returns_readRows i.object .empty).bind (Run.returns_pure _)
  rw [Model.flatMap_readings]
  exact (Run.returns_mapM data m.data).bind
    ((Run.returns_mapM inspection m.inspections).bind (Run.returns_pure _))

end Check

/-! ## Names that texts declare -/

/-- Lexical names have no space in them. -/
theorem Mapping.space_notMem_of_isName {s : String} (lexical : IsName s) : ' ' ∉ s.toList := by
  intro member
  exact absurd (isNamePart_of_mem_isName lexical ' ' member) (by decide)

/-- Of names that are given together the first is lexical. -/
theorem Mapping.NamedTogether.isName_left {first second : Option String}
    (together : NamedTogether first second) {s : String} (declared : first = some s) :
    IsName s := by
  obtain ⟨none, -⟩ | ⟨s', _, named, -, lexical, -⟩ := together
  · cases declared.symm.trans none
  · obtain rfl := Option.some.inj (declared.symm.trans named)
    exact lexical

/-- Well-formed declarations consult columns and objects that have names. -/
theorem Mapping.Model.BodyWellFormed.isName_of_consults {m : Model} (wellFormed : m.BodyWellFormed)
    {r : Reading} (member : r ∈ m.readings) :
    IsName r.object ∧
      ∀ column, r.identColumn = some column ∨ r.Consults column → IsName column := by
  rcases Model.mem_readings_iff.mp member with ⟨d, inData, rfl⟩ | ⟨i, inInspections, rfl⟩
  · have declaration := wellFormed.data d inData
    refine ⟨declaration.object, fun column consulted => ?_⟩
    rcases consulted with declared | consults
    · exact declaration.identColumn column declared
    · cases consults with
      | column inColumns => exact (declaration.columns _ inColumns).sourceColumn
  · have declaration := wellFormed.inspections i inInspections
    refine ⟨declaration.object, fun column consulted => ?_⟩
    rcases consulted with declared | consults
    · obtain ⟨ident, declared', lexical⟩ := declaration.identColumn
      obtain rfl := Option.some.inj (declared.symm.trans declared')
      exact lexical
    · cases consults with
      | parent declared => exact declaration.parentColumn column declared
      | role declared => exact declaration.structAttr.isName_left declared
      | chosenClass declared => exact declaration.classColumn.isName_left declared
      | column inColumns => exact (declaration.columns _ inColumns).sourceColumn

/-- What a reading of a well-formed model lacks has a name without spaces. -/
theorem Reading.Lacks.unspaced {answer : String → Filter → List Row} {r : Reading} {f : RowFinding}
    {m : Model} (lacks : r.Lacks answer f) (wellFormed : m.BodyWellFormed)
    (member : r ∈ m.readings) : f.Unspaced := by
  obtain ⟨object, columns⟩ := wellFormed.isName_of_consults member
  cases lacks with
  | ident declared =>
      exact ⟨space_notMem_of_isName (columns _ (.inl declared)), space_notMem_of_isName object⟩
  | column consults =>
      exact ⟨space_notMem_of_isName (columns _ (.inr consults)), space_notMem_of_isName object⟩

/-! ## Idents that are missing -/

/-- A first fault is the failure of one of the look-ups. -/
theorem FirstFault.exists_fails {m : Model} {ls : List Lookup} {e : ResolutionError}
    (fault : FirstFault m ls e) : ∃ l ∈ ls, l.Fails m e := by
  induction fault with
  | here fails ls => exact ⟨_, List.mem_cons_self, fails⟩
  | later _ _ ih =>
      obtain ⟨l, member, fails⟩ := ih
      exact ⟨l, List.mem_cons_of_mem _ member, fails⟩

/-- The only ident that is looked up in a row is the one of its declaration. -/
theorem Reading.ident_mem_lookups {r : Reading} {row row' : Row} {object column : String}
    (member : Lookup.ident object column row' ∈ r.lookups row) :
    object = r.object ∧ r.identColumn = some column ∧ row' = row := by
  have notPath {map text : Option String} :
      Lookup.ident object column row' ∉ pathLookups map text := by
    intro member
    obtain ⟨_, -, same⟩ := List.mem_map.mp member
    cases same
  have notColumn {columns : List Column} :
      Lookup.ident object column row' ∉ columnLookups row columns := by
    intro member
    obtain ⟨_, -, inPaths⟩ := List.mem_flatMap.mp member
    exact notPath inPaths
  have inIdents : Lookup.ident object column row' ∈ identLookups r.object r.identColumn row := by
    cases r with
    | data d => exact (List.mem_append.mp member).resolve_right notColumn
    | inspection i =>
        simp only [lookups, List.mem_append, notPath, notColumn, or_false] at member
        exact member
  obtain ⟨_, declared, same⟩ := List.mem_map.mp inIdents
  obtain ⟨rfl, rfl, rfl⟩ := Lookup.ident.inj same
  exact ⟨rfl, Option.mem_toList.mp declared, rfl⟩

/-- Reading misses an ident only in a row that an answer holds, and only where nothing stands. -/
theorem exists_of_missingIdent [RecordSource ω] [IdentSource γ] {m : Model}
    {answer : String → Filter → List Row} {before : Session ω γ}
    (always : AnswersAlways (fun o f => .ok (answer o f)) before.stores) {object column : String}
    (failed :
      ((readRecords m).exec before).1 = .error (.resolution (.missingIdent object column))) :
    ∃ r ∈ m.readings, r.object = object ∧ r.identColumn = some column ∧
      ∃ row ∈ answer object r.filter, ∀ cell, row.cell? column = some cell → cell = .null := by
  obtain ⟨-, faults⟩ :=
    (looksUp_readRecords_of_returns (γ := γ) returns_readRows m).ends before always
  obtain ⟨e, same, fault⟩ := (faults _).mp failed
  obtain rfl := ConversionError.resolution.inj same
  obtain ⟨l, member, fails⟩ := fault.exists_fails
  cases fails with
  | missingIdent nothing =>
      obtain ⟨r, inModel, member⟩ := List.mem_flatMap.mp member
      obtain ⟨row, read, member⟩ := List.mem_flatMap.mp member
      obtain ⟨rfl, declared, rfl⟩ := Reading.ident_mem_lookups member
      exact ⟨r, inModel, rfl, declared, _, read, nothing⟩

/-! ## The whole -/

/-- Where the rows of a declaration lack nothing, they have every column that it consults. -/
theorem Reading.not_lacks_of_complete {answer : String → Filter → List Row} {r : Reading}
    {row : Row} {column : String} (complete : ∀ f, ¬ r.Lacks answer f)
    (read : row ∈ answer r.object r.filter)
    (consulted : r.identColumn = some column ∨ r.Consults column) : ¬ row.Lacks column := by
  intro lacks
  rcases consulted with declared | consults
  · exact complete _ (.ident declared read lacks)
  · exact complete _ (.column consults read lacks)

/-- **A check of source rows is exact.** Let the source give certain rows whenever it is asked. The
check then ends well, and its messages are without repetitions. They are those of what the
declarations consult and one of their rows lacks; where the names have no spaces, as is so in every
model that is read from a text, each message stands for one finding. What is consulted is what the
records depend on. Where nothing is found, there is a cell in every column on which a record
depends, and reading misses an ident only where it is null. -/
theorem missingColumns_exact [RecordSource ω] [IdentSource γ] (m : Model)
    {answer : String → Filter → List Row} {before : Session ω γ}
    (always : AnswersAlways (fun object filter => .ok (answer object filter)) before.stores) :
    ∃ messages, ((missingColumns m).exec before).1 = .ok messages ∧ messages.Nodup ∧
      (∀ message, message ∈ messages ↔
        ∃ r ∈ m.readings, ∃ f, r.Lacks answer f ∧ f.message = message) ∧
      (∀ f : RowFinding, (f.Unspaced ∨ ∃ source text, Model.parse source text = .ok m) →
        (f.message ∈ messages ↔ ∃ r ∈ m.readings, r.Lacks answer f)) ∧
      (∀ (r : Reading) (column : String), r.DependsOn ω γ m column ↔
        ∃ consulted, (r.identColumn = some consulted ∨ r.Consults consulted) ∧
          Text.sameIgnoringCase consulted column = true) ∧
      (messages = [] →
        (∀ r ∈ m.readings, ∀ row ∈ answer r.object r.filter, ∀ column, r.DependsOn ω γ m column →
          ∃ cell, row.cell? column = some cell) ∧
        ∀ object column,
          ((readRecords m).exec before).1 = .error (.resolution (.missingIdent object column)) →
            ∃ r ∈ m.readings, r.object = object ∧ r.identColumn = some column ∧
              ∃ row ∈ answer object r.filter, row.cell? column = some .null) := by
  have : Nonempty ω := ⟨before.stores⟩
  have : Nonempty γ := ⟨before.idents⟩
  obtain ⟨stores, -, ended⟩ := returns_missingColumns (γ := γ) m before always
  have told (message : String) :
      message ∈ ((m.readings.flatMap (Reading.rowFindings answer)).map
          RowFinding.message).eraseDups ↔
        ∃ r ∈ m.readings, ∃ f, r.Lacks answer f ∧ f.message = message := by
    simp only [List.mem_eraseDups, List.mem_map, List.mem_flatMap, Reading.mem_rowFindings_iff]
    constructor
    · rintro ⟨f, ⟨r, member, lacks⟩, same⟩
      exact ⟨r, member, f, lacks, same⟩
    · rintro ⟨r, member, f, lacks, same⟩
      exact ⟨f, ⟨r, member, lacks⟩, same⟩
  refine ⟨_, congrArg Prod.fst ended, Dict.nodup_eraseDups _, told, ?_,
    fun r column => Reading.dependsOn_iff, fun nothing => ?_⟩
  · intro f unambiguous
    rw [told]
    constructor
    · rintro ⟨r, member, f', lacks, same⟩
      -- Texts whose parts have no spaces can be taken apart again.
      have one : f' = f := by
        rcases unambiguous with unspaced | ⟨source, text, read⟩
        · exact (RowFinding.eq_of_message_eq unspaced same.symm).symm
        · have unspaced := lacks.unspaced (bodyWellFormed_of_parse read).1 member
          exact RowFinding.eq_of_message_eq unspaced same
      exact ⟨r, member, one ▸ lacks⟩
    · rintro ⟨r, member, lacks⟩
      exact ⟨r, member, f, lacks, rfl⟩
  · have complete {r : Reading} (member : r ∈ m.readings) (f : RowFinding) :
        ¬ r.Lacks answer f := by
      intro lacks
      have listed := (told f.message).mpr ⟨r, member, f, lacks, rfl⟩
      rw [nothing] at listed
      cases listed
    refine ⟨fun r member row read column depends => ?_, fun object column failed => ?_⟩
    · obtain ⟨consulted, consults, same⟩ := Reading.dependsOn_iff.mp depends
      have has := Reading.not_lacks_of_complete (complete member) read consults
      exact Row.exists_cell_of_not_lacks fun lacks => has (lacks.of_same same)
    · obtain ⟨r, member, rfl, declared, row, read, null⟩ := exists_of_missingIdent always failed
      have has := Reading.not_lacks_of_complete (complete member) read (.inl declared)
      obtain ⟨cell, found⟩ := Row.exists_cell_of_not_lacks has
      obtain rfl := null cell found
      exact ⟨r, member, rfl, declared, row, read, found⟩

/-- Persons by number, with a house that they are part of. -/
def houseText : String :=
  "INSPECTION I FROM FOLK CLASS Person \x7b IDENT NO; PARENT HOUSE; COLUMN NAME -> Name; \x7d"

def houseModel : Model :=
  { Model.bare "houses" with
    inspections := [{ Inspection.bare "I" "FOLK" "Person" with
      identColumn := some "NO"
      parentColumn := some "HOUSE"
      columns := [⟨"NAME", "Name", none⟩] }] }

def houseSession (row : Row) : Session MemoryStore NumberedIdents :=
  ⟨MemoryStore.empty.insertRows "FOLK" [row], .fresh "n", .discard⟩

/-- A person without a house, and one whose number is null. -/
theorem missingColumns_exact_houses :
    let homeless := houseSession (.ofList [("NO", .string "1"), ("name", .string "Ann")])
    let unnumbered := houseSession
      (.ofList [("no", .null), ("House", .string "7"), ("NAME", .string "Ann")])
    let answer (s : Session MemoryStore NumberedIdents) (object : String) (filter : Filter) :=
      (s.stores.rows object).filter fun row => row.satisfies filter
    Model.parse "houses" houseText = .ok houseModel ∧
      ((missingColumns houseModel).exec homeless).1 = .ok ["Missing column HOUSE in source FOLK"] ∧
      (∃ r ∈ houseModel.readings, r.Lacks (answer homeless) (.missingColumn "HOUSE" "FOLK")) ∧
      ((missingColumns houseModel).exec unnumbered).1 = .ok [] ∧
      ((readRecords houseModel).exec unnumbered).1 =
        .error (.resolution (.missingIdent "FOLK" "NO")) ∧
      ∃ r ∈ houseModel.readings, ∃ row ∈ answer unnumbered "FOLK" r.filter,
        row.cell? "NO" = some .null := by
  intro homeless unnumbered answer
  have parsed : Model.parse "houses" houseText = .ok houseModel := by decide +kernel
  have found : ((missingColumns houseModel).exec homeless).1 =
      .ok ["Missing column HOUSE in source FOLK"] := by decide +kernel
  have complete : ((missingColumns houseModel).exec unnumbered).1 = .ok [] := by decide +kernel
  have failed : ((readRecords houseModel).exec unnumbered).1 =
      .error (.resolution (.missingIdent "FOLK" "NO")) := by decide +kernel
  refine ⟨parsed, found, ?_, complete, failed, ?_⟩
  · obtain ⟨messages, ended, -, -, each, -⟩ :=
      missingColumns_exact houseModel (answersAlways_memory homeless.stores)
    obtain rfl := Except.ok.inj (found.symm.trans ended)
    exact (each _ (.inr ⟨_, _, parsed⟩)).mp List.mem_cons_self
  · obtain ⟨messages, ended, -, -, -, -, hence⟩ :=
      missingColumns_exact houseModel (answersAlways_memory unnumbered.stores)
    obtain rfl := Except.ok.inj (complete.symm.trans ended)
    obtain ⟨r, member, -, -, null⟩ := (hence rfl).2 _ _ failed
    exact ⟨r, member, null⟩

/-- Persons in an object whose name reads like the end of a message. -/
def spacedModel : Model :=
  { Model.bare "spaced" with
    data := [{ DataDeclaration.bare "P" "B in source C" "Person" with
      columns := [⟨"A", "Name", none⟩] }] }

def spacedSession : Session MemoryStore NumberedIdents :=
  ⟨MemoryStore.empty.insertRows "B in source C" [.ofList [("ID", .string "1")]], .fresh "n",
    .discard⟩

/-- **A message can seem to name another object.** The message on a column that an object with
spaces in its name lacks is also the one on a column of another object, which nothing reads. -/
theorem missingColumns_names_another_object :
    ((missingColumns spacedModel).exec spacedSession).1 =
        .ok ["Missing column A in source B in source C"] ∧
      (RowFinding.missingColumn "A in source B" "C").message =
        "Missing column A in source B in source C" ∧
      ∀ r ∈ spacedModel.readings, r.object ≠ "C" := by
  refine ⟨by decide +kernel, by decide +kernel, ?_⟩
  intro r member
  obtain rfl := List.mem_singleton.mp member
  decide

end Crossmap
