import Crossmap.Mapping.Grammar
import Crossmap.Proofs.Conversion.Resolution
import Crossmap.Proofs.Findings.Models
import Crossmap.Table.Memory

/-! # Which value maps a conversion can miss

A conversion fails where it needs a value map that its model does not declare. A check of the model
beforehand finds the undeclared value maps of plain columns, so that a conversion between checked
models does not miss those (`missed_of_convert_unknownValueMap`). It does not look at markers and at
the role and class columns of inspections, and a conversion can miss the value maps that are named
there.
-/

namespace Crossmap

open Mapping

/-! ## Value maps that a check does not look at -/

namespace Mapping

/-- Whether columns name a value map for a marker. -/
def MarkerNames (columns : List Column) (name : String) : Prop :=
  ∃ c ∈ columns, c.isSynthetic = true ∧ c.valueMap = some name

/-- Whether an inspection names a value map for its role column, its class column or a marker. -/
def Inspection.NamesUnchecked (i : Inspection) (name : String) : Prop :=
  i.structAttrMap = some name ∨ i.classMap = some name ∨ MarkerNames i.columns name

/-- The undeclared value maps that reading the records of a checked model can miss. -/
def Model.MissedReading (m : Model) (name : String) : Prop :=
  m.hasValueMap name = false ∧
    ((∃ d ∈ m.data, MarkerNames d.columns name) ∨ ∃ i ∈ m.inspections, i.NamesUnchecked name)

/-- The undeclared value maps that writing records through a checked model can miss. -/
def Model.MissedWriting (m : Model) (name : String) : Prop :=
  m.hasValueMap name = false ∧ ∃ d ∈ m.data, MarkerNames d.columns name

end Mapping

/-- Declarations that fit name undeclared value maps for markers only. -/
theorem Reading.Fits.markerNames {m : Model} {s : Schema} {r : Reading} (fits : r.Fits m s)
    {c : Column} {name : String} (member : c ∈ r.columns) (named : c.valueMap = some name)
    (undeclared : m.hasValueMap name = false) : MarkerNames r.columns name := by
  refine ⟨c, member, ?_, named⟩
  by_contra plain
  have declared := (fits.columns c (.inl member) (Bool.eq_false_iff.mpr plain)).2 name named
  rw [← Model.hasValueMap_iff, undeclared] at declared
  cases declared

/-! ## Missing value maps -/

namespace Mapping.Model

variable {m : Model} {name : String}

/-- A value map that is demanded in vain is not declared. -/
theorem requireMap_eq_error {required : String} {e : ResolutionError}
    (failed : m.requireMap required = .error e) :
    e = .unknownValueMap required ∧ m.hasValueMap required = false := by
  unfold requireMap at failed
  split at failed
  case h_1 => exact nomatch failed
  case h_2 undeclared =>
    refine ⟨(Except.error.inj failed).symm, ?_⟩
    change (m.valueMap? required).isSome = false
    rw [undeclared]
    rfl

/-- Resolving a text misses no value map but the one that is named, where it is not declared. -/
theorem forward_eq_unknownValueMap {map value : Option String}
    (failed : m.forward map value = .error (.unknownValueMap name)) :
    map = some name ∧ m.hasValueMap name = false := by
  unfold forward at failed
  split at failed
  case h_1 required value =>
    unfold forwardThrough at failed
    split at failed
    case isTrue => exact nomatch failed
    case isFalse =>
      rcases bind_eq_error_iff.mp failed with missing | ⟨v, -, further⟩
      · obtain ⟨same, undeclared⟩ := requireMap_eq_error missing
        cases same
        exact ⟨rfl, undeclared⟩
      · cases code : Code.ofText? value with
        | none =>
            rw [code] at further
            cases further
        | some c =>
            rw [code] at further
            cases further
  case h_2 => exact nomatch failed

/-- Resolving a path misses no value map but the one that is named, where it is not declared. -/
theorem backward_eq_unknownValueMap {map value : Option String}
    (failed : m.backward map value = .error (.unknownValueMap name)) :
    map = some name ∧ m.hasValueMap name = false := by
  unfold backward at failed
  split at failed
  case h_1 => exact nomatch failed
  case h_2 => exact nomatch failed
  case h_3 required value =>
    unfold backwardThrough at failed
    split at failed
    case isTrue => exact nomatch failed
    case isFalse =>
      rcases bind_eq_error_iff.mp failed with missing | ⟨v, -, further⟩
      · obtain ⟨same, undeclared⟩ := requireMap_eq_error missing
        cases same
        exact ⟨rfl, undeclared⟩
      · rcases codes : v.codesFor value with _ | ⟨code, _ | ⟨_, _⟩⟩
        · rw [codes] at further
          cases further
        · rw [codes] at further
          cases further
        · rw [codes] at further
          cases further

end Mapping.Model

/-! ## Errors of runs -/

/-- An error that speaks of a missing value map only if it is one of some. -/
def MissesOnly (missed : String → Prop) : ConversionError → Prop
  | .resolution (.unknownValueMap name) => missed name
  | _ => True

variable {ω γ : Type} {missed : String → Prop} {m : Model} {s : Schema}

/-- A resolution misses only value maps that its own error speaks of. -/
theorem missesOnly_resolution {α : Type} {x : Except ResolutionError α}
    (errors : ∀ name, x = .error (.unknownValueMap name) → missed name) :
    (Run.resolved x : Run ω γ ConversionError α).FailsOnly (MissesOnly missed) := by
  refine Run.failsOnly_ofExcept ?_
  intro e failed
  cases x with
  | ok a => exact nomatch failed
  | error e' =>
      cases failed
      cases e' with
      | unknownValueMap name => exact errors name rfl
      | _ => trivial

/-- Finding an ident misses no value map. -/
theorem missesOnly_identOf [IdentSource γ] (row : Row) (identColumn : Option String)
    (object : String) :
    (identOf row identColumn object : Run ω γ ConversionError String).FailsOnly
      (MissesOnly missed) := by
  unfold identOf
  split
  case h_1 => exact Run.failsOnly_nextIdent
  case h_2 =>
    split
    case h_1 => exact Run.failsOnly_pure _
    case h_2 => exact Run.failsOnly_throw trivial

theorem missesOnly_forward {map value : Option String}
    (names : ∀ name, map = some name → m.hasValueMap name = false → missed name) :
    (Run.resolved (m.forward map value) : Run ω γ ConversionError (Option String)).FailsOnly
      (MissesOnly missed) := by
  apply missesOnly_resolution
  intro name failed
  obtain ⟨named, undeclared⟩ := Model.forward_eq_unknownValueMap failed
  exact names name named undeclared

theorem missesOnly_backward {map value : Option String}
    (names : ∀ name, map = some name → m.hasValueMap name = false → missed name) :
    (Run.resolved (m.backward map value) : Run ω γ ConversionError Cell).FailsOnly
      (MissesOnly missed) := by
  apply missesOnly_resolution
  intro name failed
  obtain ⟨named, undeclared⟩ := Model.backward_eq_unknownValueMap failed
  exact names name named undeclared

/-- Whether the value maps that columns name and a model does not declare are some. -/
def LacksOnly (m : Model) (missed : String → Prop) (columns : List Column) : Prop :=
  ∀ c ∈ columns, ∀ name, c.valueMap = some name → m.hasValueMap name = false → missed name

/-- Reading columns misses only value maps that they name. -/
theorem missesOnly_readColumns {columns : List Column} (lacks : LacksOnly m missed columns)
    (row : Row) (detail : String) (record : Record) :
    (readColumns m row detail columns record : Run ω γ ConversionError Record).FailsOnly
      (MissesOnly missed) := by
  refine Run.failsOnly_foldlM ?_ record
  intro c member record
  refine (missesOnly_forward (lacks c member)).bind fun value => ?_
  exact (Run.failsOnly_report _).bind fun _ => Run.failsOnly_pure _

/-- Making a row misses only value maps that the columns name. -/
theorem missesOnly_writeRow {d : DataDeclaration} (lacks : LacksOnly m missed d.columns)
    (record : Record) :
    (writeRow m d record : Run ω γ ConversionError Row).FailsOnly (MissesOnly missed) := by
  refine Run.failsOnly_foldlM ?_ (identRow d record)
  intro c member row
  refine (missesOnly_backward (lacks c member)).bind fun cell => ?_
  exact (Run.failsOnly_report _).bind fun _ => Run.failsOnly_pure _

/-! ## Checked models -/

/-- Reading for a data declaration of a checked model misses only value maps of markers. -/
theorem missesOnly_readData [RecordSource ω] [IdentSource γ] (clean : m.check s = [])
    {d : DataDeclaration} (member : d ∈ m.data) :
    (readData m d : Run ω γ ConversionError (List Record)).FailsOnly
      (MissesOnly m.MissedReading) := by
  have lacks : LacksOnly m m.MissedReading d.columns := by
    intro c inColumns name named undeclared
    have fits := Model.check_eq_nil_iff.mp clean _ (Model.mem_readings_of_data member)
    have marker := fits.markerNames inColumns named undeclared
    exact ⟨undeclared, .inl ⟨d, member, marker⟩⟩
  refine (Run.failsOnly_mapError _ fun _ => trivial).bind fun rows => ?_
  refine Run.failsOnly_mapM fun row _ => ?_
  refine (missesOnly_identOf row d.identColumn d.object).bind fun ident => ?_
  exact missesOnly_readColumns lacks row _ _

/-- Inspecting for a checked model misses only value maps of markers, of the role column and of the
class column. -/
theorem missesOnly_inspect [RecordSource ω] [IdentSource γ] (clean : m.check s = [])
    {i : Inspection} (member : i ∈ m.inspections) :
    (inspect m i : Run ω γ ConversionError (List Record)).FailsOnly
      (MissesOnly m.MissedReading) := by
  have unchecked (name : String) (named : i.NamesUnchecked name)
      (undeclared : m.hasValueMap name = false) : m.MissedReading name :=
    ⟨undeclared, .inr ⟨i, member, named⟩⟩
  have lacks : LacksOnly m m.MissedReading i.columns := by
    intro c inColumns name named undeclared
    have fits := Model.check_eq_nil_iff.mp clean _ (Model.mem_readings_of_inspection member)
    have marker := fits.markerNames inColumns named undeclared
    exact unchecked name (.inr (.inr marker)) undeclared
  refine (Run.failsOnly_mapError _ fun _ => trivial).bind fun rows => ?_
  refine Run.failsOnly_mapM fun row _ => ?_
  refine (missesOnly_identOf row i.identColumn i.object).bind fun ident => ?_
  -- The maps of the role and the class column are not looked at by a check at all.
  refine (missesOnly_forward fun name named => unchecked name (.inl named)).bind fun role => ?_
  refine (missesOnly_forward fun name named => unchecked name (.inr (.inl named))).bind
    fun chosen => ?_
  exact missesOnly_readColumns lacks row _ _

/-- Reading the records of a checked model misses value maps that are not looked at only. -/
theorem missesOnly_readRecords [RecordSource ω] [IdentSource γ] (clean : m.check s = []) :
    (readRecords m : Run ω γ ConversionError (List Record)).FailsOnly
      (MissesOnly m.MissedReading) := by
  refine (Run.failsOnly_mapM fun d member => missesOnly_readData clean member).bind fun _ => ?_
  refine (Run.failsOnly_mapM fun i member => missesOnly_inspect clean member).bind fun _ => ?_
  exact Run.failsOnly_pure _

/-- Writing records through a checked model misses value maps of markers only. -/
theorem missesOnly_writeRecords [RecordTarget ω] (clean : m.check s = []) (records : List Record) :
    (writeRecords m records : Run ω γ ConversionError (Dict String Nat)).FailsOnly
      (MissesOnly m.MissedWriting) := by
  refine Run.failsOnly_foldlM (fun d member counts => ?_) Dict.empty
  have lacks : LacksOnly m m.MissedWriting d.columns := by
    intro c inColumns name named undeclared
    have fits := Model.check_eq_nil_iff.mp clean _ (Model.mem_readings_of_data member)
    have marker := fits.markerNames inColumns named undeclared
    exact ⟨undeclared, d, member, marker⟩
  refine (Run.failsOnly_mapM fun record _ => missesOnly_writeRow lacks record).bind fun rows => ?_
  exact (Run.failsOnly_mapError _ fun _ => trivial).bind fun _ => Run.failsOnly_pure _

/-- An error that misses one of some value maps misses one of more of them. -/
theorem MissesOnly.mono {missed' : String → Prop} (more : ∀ name, missed name → missed' name)
    {e : ConversionError} (only : MissesOnly missed e) : MissesOnly missed' e := by
  unfold MissesOnly at only ⊢
  split at only
  case h_1 name => exact more name only
  case h_2 => trivial

/-- **What checked models can miss.** A conversion between models that pass their checks does not
miss a value map, except for an undeclared one that the source model names for a role column, a
class column or a marker, or that the target model names for a marker of a data declaration. This
holds for whatever is stored and whatever takes the rows. -/
theorem missed_of_convert_unknownValueMap [RecordSource ω] [RecordTarget ω] [IdentSource γ]
    {source target : Model} (sourceClean : source.check s = []) (targetClean : target.check s = [])
    {tracing : Bool} {before after : Session ω γ} {name : String}
    (failed : (convert source target tracing).exec before =
      (.error (.resolution (.unknownValueMap name)), after)) :
    source.MissedReading name ∨ target.MissedWriting name := by
  have only : (convert source target tracing : Run ω γ ConversionError Outcome).FailsOnly
      (MissesOnly fun name => source.MissedReading name ∨ target.MissedWriting name) := by
    refine (Run.failsOnly_startTrace tracing).bind fun _ => ?_
    refine ((missesOnly_readRecords sourceClean).mono fun e => MissesOnly.mono fun _ => .inl).bind
      fun records => ?_
    refine ((missesOnly_writeRecords targetClean records).mono fun e =>
      MissesOnly.mono fun _ => .inr).bind fun rowsWritten => ?_
    exact Run.failsOnly_events.bind fun _ => Run.failsOnly_pure _
  exact only before after _ failed

/-- A schema of one class without attributes. -/
def lotSchema : Schema := Schema.empty.addClass (.bare "Lot")

def lotStore : MemoryStore :=
  MemoryStore.empty.insertRows "LOTS" [.ofList [("ID", .string "1"), ("USE", .string "3")]]

def lotSession : Session (Endpoints MemoryStore MemoryStore) NumberedIdents :=
  ⟨⟨lotStore, .empty⟩, .fresh "id", .discard⟩

/-- A model that does not declare the value map of the role column of its inspection. -/
def lotModel : Model :=
  { Model.bare "Lots" with
    data := [{ DataDeclaration.bare "P" "LOTS" "Lot" with identColumn := some "ID" }]
    inspections := [{ Inspection.bare "I" "LOTS" "Lot" with
      identColumn := some "ID"
      structAttrColumn := some "USE"
      structAttrMap := some "STATE" }] }

/-- A checked model misses the value map of its role column. -/
theorem missed_of_convert_lot :
    lotModel.check lotSchema = [] ∧
      (convert lotModel lotModel false).exec lotSession =
        (.error (.resolution (.unknownValueMap "STATE")), lotSession) ∧
      (lotModel.MissedReading "STATE" ∨ lotModel.MissedWriting "STATE") := by
  have clean : lotModel.check lotSchema = [] := by decide
  have failed : (convert lotModel lotModel false).exec lotSession =
      (.error (.resolution (.unknownValueMap "STATE")), lotSession) := by rfl
  exact ⟨clean, failed, missed_of_convert_unknownValueMap clean clean failed⟩

/-- Converts the lots between two mapping texts, provided that both can be read and that both models
pass their checks. -/
def convertLots (sourceText targetText : String) : Option (Except ConversionError Outcome) := do
  let source ← (Model.parse "source" sourceText).toOption
  let target ← (Model.parse "target" targetText).toOption
  guard (source.check lotSchema = [] ∧ target.check lotSchema = [])
  return ((convert source target false).exec lotSession).1

/-- The conversion is tried, and fails for want of the value map. -/
def stateMissed : Option (Except ConversionError Outcome) :=
  some (.error (.resolution (.unknownValueMap "STATE")))

/-- A mapping text without value maps. -/
def lotText : String := "DATA P FROM LOTS CLASS Lot { IDENT ID; }"

/-- A check does not find the undeclared value map of a role column, of a class column, or of a
marker in an inspection, in the data that is read or in the data that is written. -/
theorem convertLots_unknownValueMap :
    convertLots "INSPECTION I FROM LOTS CLASS Lot { IDENT ID; STRUCTATTR USE STATE; }" lotText =
        stateMissed ∧
      convertLots "INSPECTION I FROM LOTS CLASS Lot { IDENT ID; CLASSCOL USE STATE; }" lotText =
        stateMissed ∧
      convertLots "INSPECTION I FROM LOTS CLASS Lot { IDENT ID; COLUMN USE -> $PARENT, STATE; }"
        lotText = stateMissed ∧
      convertLots "DATA P FROM LOTS CLASS Lot { IDENT ID; COLUMN USE -> $PARENT, STATE; }" lotText =
        stateMissed ∧
      convertLots lotText "DATA P FROM LOTS CLASS Lot { IDENT ID; COLUMN $IDENT -> USE, STATE; }" =
        stateMissed := by
  decide +kernel

end Crossmap
