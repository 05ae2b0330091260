import Crossmap.Findings.Models
import Crossmap.Proofs.Conversion.Reading
import Crossmap.Proofs.Text.Split

/-! # Models that fit a schema

A declaration is at odds with a schema for reasons of four kinds (`Reading.AtOdds`), and a check of
its model finds these reasons and nothing else (`Reading.mem_findings_iff`). A check finds nothing
exactly if every declaration fits (`check_eq_nil_iff_fits`), and it finds the same in a declaration
whatever else the model declares.

One reason hides another: where a column ends in an unknown attribute, the value map that it names
is not looked at (`check_tells_of_declaration`), so that a check does not tell all at once
(`check_hides_undeclared_map`).
-/

namespace Crossmap

open Mapping

/-! ## Attributes that a class offers -/

namespace Schema

variable {s : Schema} {className attributeName : String}

/-- Whether an attribute is declared by a class itself or by one whose superclass it is. -/
def Offers (s : Schema) (className attributeName : String) : Prop :=
  ∃ e ∈ s.classes.entries, (e.1 = className ∨ e.2.superclass = some className) ∧
    attributeName ∈ e.2.attributes.keys

/-- A class has an attribute of its own if one is declared under its name. -/
theorem hasAttribute_iff :
    s.hasAttribute className attributeName = true ↔
      ∃ c, (className, c) ∈ s.classes.entries ∧ attributeName ∈ c.attributes.keys := by
  rw [hasAttribute, attribute?, Option.isSome_bind, Option.any_eq_true]
  constructor
  · rintro ⟨c, declared, found⟩
    exact ⟨c, Dict.get?_eq_some_iff.mp declared, Dict.contains_eq_true_iff.mp found⟩
  · rintro ⟨c, declared, found⟩
    exact ⟨c, Dict.get?_eq_some_iff.mpr declared, Dict.contains_eq_true_iff.mpr found⟩

/-- The subclasses of a class are those that name it as their superclass. -/
theorem mem_subclasses_iff {c : ClassDeclaration} :
    c ∈ s.subclasses className ↔
      ∃ key, (key, c) ∈ s.classes.entries ∧ c.superclass = some className := by
  rw [subclasses, List.mem_filter, decide_eq_true_iff, Dict.values, List.mem_map]
  constructor
  · rintro ⟨⟨⟨key, _⟩, declared, rfl⟩, extends'⟩
    exact ⟨key, declared, extends'⟩
  · rintro ⟨key, declared, extends'⟩
    exact ⟨⟨(key, c), declared, rfl⟩, extends'⟩

/-- The check for an attribute looks at the class and at the classes directly under it. -/
theorem offersAttribute_iff :
    s.offersAttribute className attributeName = true ↔ s.Offers className attributeName := by
  rw [offersAttribute, Bool.or_eq_true, hasAttribute_iff, List.any_eq_true]
  constructor
  · rintro (⟨c, declared, found⟩ | ⟨c, extends', found⟩)
    · exact ⟨_, declared, .inl rfl, found⟩
    · obtain ⟨key, declared, superclass⟩ := mem_subclasses_iff.mp extends'
      exact ⟨_, declared, .inr superclass, Dict.contains_eq_true_iff.mp found⟩
  · rintro ⟨⟨key, c⟩, declared, rfl | superclass, found⟩
    · exact .inl ⟨c, declared, found⟩
    · exact .inr ⟨c, mem_subclasses_iff.mpr ⟨key, declared, superclass⟩,
        Dict.contains_eq_true_iff.mpr found⟩

end Schema

/-! ## Declarations -/

namespace Reading

/-- The kind of the declaration. -/
def kind : Reading → DeclarationKind
  | .data _ => .data
  | .inspection _ => .inspection

def name : Reading → String
  | .data d => d.name
  | .inspection i => i.name

def className : Reading → String
  | .data d => d.className
  | .inspection i => i.className

def withBlocks : Reading → List WithBlock
  | .data d => d.withBlocks
  | .inspection i => i.withBlocks

def conversions : Reading → List ConversionCall
  | .data d => d.conversions
  | .inspection i => i.conversions

/-- What does not fit in the declaration. -/
def findings (m : Model) (s : Schema) : Reading → List ModelFinding
  | .data d => d.findings m s
  | .inspection i => i.findings m s

/-- Whether a column belongs to the declaration, by itself or under an alias. -/
def HasColumn (r : Reading) (c : Column) : Prop :=
  c ∈ r.columns ∨ ∃ w ∈ r.withBlocks, c ∈ w.columns

/-- Why a declaration does not fit: something that it names is unknown. Nothing else counts where
its class is unknown, and the value map of a column does not where its attribute is unknown. -/
inductive AtOdds (m : Model) (s : Schema) (r : Reading) : ModelFinding → Prop
  | unknownClass (unknown : r.className ∉ s.classes.keys) :
      AtOdds m s r (.unknownClass r.kind r.className)
  | unknownAttribute {c : Column} {attributeName : String} (known : r.className ∈ s.classes.keys)
      (member : r.HasColumn c) (plain : c.isSynthetic = false)
      (ends : Text.IsLastSegment attributeName c.targetPath)
      (unknown : ¬ s.Offers r.className attributeName) :
      AtOdds m s r (.unknownAttribute attributeName r.className)
  | unknownValueMap {c : Column} {attributeName map : String}
      (known : r.className ∈ s.classes.keys) (member : r.HasColumn c)
      (plain : c.isSynthetic = false) (ends : Text.IsLastSegment attributeName c.targetPath)
      (offered : s.Offers r.className attributeName) (named : c.valueMap = some map)
      (unknown : map ∉ m.valueMaps.keys) :
      AtOdds m s r (.unknownValueMap map r.className attributeName)
  | unknownConversionMap {call : ConversionCall} (known : r.className ∈ s.classes.keys)
      (member : call ∈ r.conversions) (unknown : call.valueMap ∉ m.valueMaps.keys) :
      AtOdds m s r (.unknownConversionMap call.valueMap r.kind r.name)

end Reading

/-! ## What a check finds -/

section Findings

variable {m : Model} {s : Schema} {r : Reading} {f : ModelFinding}

theorem Schema.hasClass_iff {className : String} :
    s.hasClass className = true ↔ className ∈ s.classes.keys :=
  Dict.contains_eq_true_iff

theorem Mapping.Model.hasValueMap_iff {name : String} :
    m.hasValueMap name = true ↔ name ∈ m.valueMaps.keys :=
  Dict.contains_eq_true_iff

/-- What is found in a column: that its attribute is unknown, or else that its value map is. -/
theorem Mapping.Column.mem_findings_iff {c : Column} {className : String} :
    f ∈ c.findings m s className ↔ c.isSynthetic = false ∧
      ∃ attributeName, Text.IsLastSegment attributeName c.targetPath ∧
        ((¬ s.Offers className attributeName ∧ f = .unknownAttribute attributeName className) ∨
          s.Offers className attributeName ∧ ∃ map, c.valueMap = some map ∧
            map ∉ m.valueMaps.keys ∧ f = .unknownValueMap map className attributeName) := by
  have ends : Text.lastSegment c.targetPath = c.attributeName := rfl
  simp only [← Text.lastSegment_eq_iff, exists_eq_left', ends, ← Schema.offersAttribute_iff,
    ← Model.hasValueMap_iff]
  rw [findings]
  cases c.isSynthetic with
  | true => simp
  | false =>
      cases s.offersAttribute className c.attributeName with
      | false => simp
      | true =>
          cases c.valueMap with
          | none => simp
          | some map =>
              cases declared : m.hasValueMap map with
              | true => simp [declared]
              | false => simp [declared]

/-- A conversion is found wanting exactly if its value map is not declared. -/
theorem Mapping.ConversionCall.mem_findings_iff {call : ConversionCall} {kind : DeclarationKind}
    {name : String} :
    f ∈ call.findings m kind name ↔
      call.valueMap ∉ m.valueMaps.keys ∧ f = .unknownConversionMap call.valueMap kind name := by
  rw [findings, ← Model.hasValueMap_iff]
  cases m.hasValueMap call.valueMap with
  | true => simp
  | false => simp

namespace Reading

/-- The columns of a declaration are its own ones and those of its blocks. -/
theorem hasColumn_iff {c : Column} :
    r.HasColumn c ↔ c ∈ r.columns ++ r.withBlocks.flatMap WithBlock.columns := by
  rw [HasColumn, List.mem_append, List.mem_flatMap]

/-- In a declaration of a known class all columns and all conversions are looked at. -/
theorem findings_of_known (known : r.className ∈ s.classes.keys) :
    r.findings m s =
      (r.columns ++ r.withBlocks.flatMap WithBlock.columns).flatMap
          (Column.findings m s r.className)
        ++ r.conversions.flatMap (ConversionCall.findings m r.kind r.name) := by
  cases r with
  | data d => exact if_pos (Schema.hasClass_iff.mpr known)
  | inspection i => exact if_pos (Schema.hasClass_iff.mpr known)

/-- Nothing but the class is told of a declaration whose class is unknown. -/
theorem findings_of_unknown (unknown : r.className ∉ s.classes.keys) :
    r.findings m s = [.unknownClass r.kind r.className] := by
  cases r with
  | data d => exact if_neg (mt Schema.hasClass_iff.mp unknown)
  | inspection i => exact if_neg (mt Schema.hasClass_iff.mp unknown)

/-- **A check finds what is at odds**, and nothing else. -/
theorem mem_findings_iff : f ∈ r.findings m s ↔ r.AtOdds m s f := by
  by_cases known : r.className ∈ s.classes.keys
  · rw [findings_of_known known, List.mem_append, List.mem_flatMap, List.mem_flatMap]
    constructor
    · rintro (⟨c, member, found⟩ | ⟨call, member, found⟩)
      · obtain ⟨plain, attributeName, ends, reason⟩ := Column.mem_findings_iff.mp found
        have of := hasColumn_iff.mpr member
        rcases reason with ⟨unknown, rfl⟩ | ⟨offered, map, named, unknown, rfl⟩
        · exact .unknownAttribute known of plain ends unknown
        · exact .unknownValueMap known of plain ends offered named unknown
      · obtain ⟨unknown, rfl⟩ := ConversionCall.mem_findings_iff.mp found
        exact .unknownConversionMap known member unknown
    · intro atOdds
      cases atOdds with
      | unknownClass unknown => exact (unknown known).elim
      | unknownAttribute _ of plain ends unknown =>
          refine .inl ⟨_, hasColumn_iff.mp of, Column.mem_findings_iff.mpr ⟨plain, _, ends, ?_⟩⟩
          exact .inl ⟨unknown, rfl⟩
      | unknownValueMap _ of plain ends offered named unknown =>
          refine .inl ⟨_, hasColumn_iff.mp of, Column.mem_findings_iff.mpr ⟨plain, _, ends, ?_⟩⟩
          exact .inr ⟨offered, _, named, unknown, rfl⟩
      | unknownConversionMap _ member unknown =>
          exact .inr ⟨_, member, ConversionCall.mem_findings_iff.mpr ⟨unknown, rfl⟩⟩
  · rw [findings_of_unknown known, List.mem_singleton]
    constructor
    · rintro rfl
      exact .unknownClass known
    · intro atOdds
      cases atOdds with
      | unknownClass => rfl
      | unknownAttribute declared => exact (known declared).elim
      | unknownValueMap declared => exact (known declared).elim
      | unknownConversionMap declared => exact (known declared).elim

end Reading

/-- The findings in a model are those in its declarations. -/
theorem Mapping.Model.findings_eq_flatMap :
    m.findings s = m.readings.flatMap (Reading.findings m s) := by
  rw [flatMap_readings]
  rfl

/-- A check finds exactly the reasons why some declaration is at odds with the schema. -/
theorem Mapping.Model.mem_findings_iff :
    f ∈ m.findings s ↔ ∃ r ∈ m.readings, r.AtOdds m s f := by
  simp only [findings_eq_flatMap, List.mem_flatMap, Reading.mem_findings_iff]

/-- Every reason is told with its message. -/
theorem Mapping.Model.message_mem_check (member : r ∈ m.readings) (atOdds : r.AtOdds m s f) :
    f.message ∈ m.check s :=
  List.mem_map_of_mem (mem_findings_iff.mpr ⟨r, member, atOdds⟩)

end Findings

/-! ## Models in which nothing is found -/

/-- Whether a declaration fits a schema: its class is one of the schema, its columns end in
attributes that the class offers, and all value maps that it names are declared. Columns that are
bound to markers fit in any case. -/
structure Reading.Fits (m : Model) (s : Schema) (r : Reading) : Prop where
  known : r.className ∈ s.classes.keys
  columns : ∀ c, r.HasColumn c → c.isSynthetic = false →
    (∃ attributeName, Text.IsLastSegment attributeName c.targetPath ∧
      s.Offers r.className attributeName) ∧
      ∀ map, c.valueMap = some map → map ∈ m.valueMaps.keys
  conversions : ∀ call ∈ r.conversions, call.valueMap ∈ m.valueMaps.keys

/-- A declaration fits exactly if there is no reason why it should not. -/
theorem Reading.fits_iff {m : Model} {s : Schema} {r : Reading} :
    r.Fits m s ↔ ∀ f, ¬ r.AtOdds m s f := by
  constructor
  · intro fits f atOdds
    cases atOdds with
    | unknownClass unknown => exact unknown fits.known
    | unknownAttribute _ of plain ends unknown =>
        obtain ⟨_, ends', offered⟩ := (fits.columns _ of plain).1
        obtain rfl := ends'.lastSegment.symm.trans ends.lastSegment
        exact unknown offered
    | unknownValueMap _ of plain _ _ named unknown =>
        exact unknown ((fits.columns _ of plain).2 _ named)
    | unknownConversionMap _ member unknown => exact unknown (fits.conversions _ member)
  · intro nothing
    have known : r.className ∈ s.classes.keys := by
      by_contra unknown
      exact nothing _ (.unknownClass unknown)
    refine ⟨known, fun c of plain => ?_, fun call member => ?_⟩
    · obtain ⟨attributeName, ends⟩ := Text.exists_isLastSegment c.targetPath
      have offered : s.Offers r.className attributeName := by
        by_contra unknown
        exact nothing _ (.unknownAttribute known of plain ends unknown)
      refine ⟨⟨attributeName, ends, offered⟩, fun map named => ?_⟩
      by_contra unknown
      exact nothing _ (.unknownValueMap known of plain ends offered named unknown)
    · by_contra unknown
      exact nothing _ (.unknownConversionMap known member unknown)

/-- An undeclared value map counts only for an attribute that the class offers. -/
theorem Reading.AtOdds.offers {m : Model} {s : Schema} {r : Reading}
    {map className attributeName : String}
    (atOdds : r.AtOdds m s (.unknownValueMap map className attributeName)) :
    s.Offers className attributeName := by
  generalize told : ModelFinding.unknownValueMap map className attributeName = f at atOdds
  cases atOdds with
  | unknownValueMap _ _ _ _ offered =>
      obtain ⟨-, rfl, rfl⟩ := ModelFinding.unknownValueMap.inj told
      exact offered
  | unknownClass | unknownAttribute | unknownConversionMap => cases told

/-- Nothing is found in a model exactly if every declaration fits. -/
theorem Mapping.Model.check_eq_nil_iff {m : Model} {s : Schema} :
    m.check s = [] ↔ ∀ r ∈ m.readings, r.Fits m s := by
  rw [check, List.map_eq_nil_iff, List.eq_nil_iff_forall_not_mem]
  simp only [mem_findings_iff, Reading.fits_iff, not_exists, not_and]
  exact ⟨fun none r member f => none f r member, fun none f r member => none r member f⟩

/-- The model with one declaration only, and with all its value maps. -/
def Mapping.Model.alone (m : Model) : Reading → Model
  | .data d => { m with data := [d], inspections := [] }
  | .inspection i => { m with data := [], inspections := [i] }

/-- A model with one declaration is told what is found in that one. -/
theorem Mapping.Model.check_alone (m : Model) (s : Schema) (r : Reading) :
    (m.alone r).check s = (r.findings m s).map ModelFinding.message := by
  cases r with
  | data d =>
      change ((d.findings m s ++ []) ++ []).map _ = _
      rw [List.append_nil, List.append_nil]
      rfl
  | inspection i =>
      change ([] ++ (i.findings m s ++ [])).map _ = _
      rw [List.append_nil, List.nil_append]
      rfl

/-- **A check is exact.** It finds nothing exactly if every declaration fits. It lists what it finds
in the declarations one after another, those of data first, in each as if it were the only one
beside the value maps; and in a declaration of an unknown class it finds just that. -/
theorem check_eq_nil_iff_fits (m : Model) (s : Schema) :
    (m.check s = [] ↔ ∀ r ∈ m.readings, r.Fits m s) ∧
      m.check s = m.readings.flatMap (fun r => (m.alone r).check s) ∧
      ∀ r : Reading, r.className ∉ s.classes.keys →
        (m.alone r).check s = [(ModelFinding.unknownClass r.kind r.className).message] := by
  refine ⟨Model.check_eq_nil_iff, ?_, fun r unknown => ?_⟩
  · simp only [Model.check_alone]
    rw [Model.check, Model.findings_eq_flatMap, List.map_flatMap]
  · rw [Model.check_alone, Reading.findings_of_unknown unknown, List.map_singleton]

/-- Persons under a base class, and members under persons. -/
def folkSchema : Schema :=
  ((Schema.empty.addClass
    ((ClassDeclaration.bare "Base").addAttribute (.plain "Name" "TEXT"))).addClass
    ({ ClassDeclaration.bare "Person" with superclass := some "Base" }.addAttribute
      (.plain "State" "ENUM"))).addClass
    ({ ClassDeclaration.bare "Member" with superclass := some "Person" }.addAttribute
      (.plain "Since" "DATE"))

/-- Persons by an attribute of members, and ghosts, of which the schema knows nothing. -/
def folkModel : Model :=
  { Model.bare "Folk" with
    data := [{ DataDeclaration.bare "P" "FOLK" "Person" with
      columns := [⟨"SINCE", "Folk.Member.Since", none⟩] }]
    inspections := [Inspection.bare "G" "FOLK" "Ghost"] }

theorem check_eq_nil_iff_fits_folk :
    let ghost := Reading.inspection (Inspection.bare "G" "FOLK" "Ghost")
    ghost.className ∉ folkSchema.classes.keys ∧
      (folkModel.alone ghost).check folkSchema = ["Unknown inspection class: Ghost"] ∧
      folkModel.check folkSchema = ["Unknown inspection class: Ghost"] ∧
      ¬ ∀ r ∈ folkModel.readings, r.Fits folkModel folkSchema := by
  intro ghost
  obtain ⟨fits, -, alone⟩ := check_eq_nil_iff_fits folkModel folkSchema
  have unknown : ghost.className ∉ folkSchema.classes.keys := by decide
  have found : folkModel.check folkSchema = ["Unknown inspection class: Ghost"] := by
    decide +kernel
  refine ⟨unknown, alone ghost unknown, found, fun all => ?_⟩
  rw [fits.mpr all] at found
  cases found

/-! ## What a check tells of a declaration -/

/-- **What a check tells of a declaration** whose class is known: of every column, by itself or
under an alias, an unknown attribute, and an undeclared value map where the attribute is known; and
of every conversion an undeclared value map. That a column names an undeclared value map is found
only where its class offers its attribute. -/
theorem check_tells_of_declaration {m : Model} {s : Schema} {r : Reading} (member : r ∈ m.readings)
    (known : r.className ∈ s.classes.keys) :
    (∀ c attributeName, r.HasColumn c → c.isSynthetic = false →
      Text.IsLastSegment attributeName c.targetPath →
        (¬ s.Offers r.className attributeName →
          "Unknown attribute " ++ attributeName ++ " on " ++ r.className ∈ m.check s) ∧
        ∀ map, c.valueMap = some map → map ∉ m.valueMaps.keys →
          (s.Offers r.className attributeName →
            "Unknown VALUEMAP " ++ map ++ " for " ++ r.className ++ "." ++ attributeName
              ∈ m.check s) ∧
          (ModelFinding.unknownValueMap map r.className attributeName ∈ m.findings s ↔
            s.Offers r.className attributeName)) ∧
      ∀ call ∈ r.conversions, call.valueMap ∉ m.valueMaps.keys →
        "Unknown conversion map " ++ call.valueMap ++ " in " ++ r.kind.keyword ++ " " ++ r.name
          ∈ m.check s := by
  refine ⟨fun c attributeName of plain ends => ⟨fun unknown => ?_, ?_⟩,
    fun call inCalls unknown => ?_⟩
  · exact Model.message_mem_check member (.unknownAttribute known of plain ends unknown)
  · intro map named unknown
    have atOdds (offered : s.Offers r.className attributeName) :=
      Reading.AtOdds.unknownValueMap (m := m) known of plain ends offered named unknown
    refine ⟨fun offered => Model.message_mem_check member (atOdds offered), ?_, ?_⟩
    · intro found
      obtain ⟨_, -, reason⟩ := Model.mem_findings_iff.mp found
      exact reason.offers
    · intro offered
      exact Model.mem_findings_iff.mpr ⟨r, member, atOdds offered⟩
  · exact Model.message_mem_check member (.unknownConversionMap known inCalls unknown)

/-- Persons by two columns whose value maps are not declared. Only the first attribute is known. -/
def stateDeclaration : DataDeclaration :=
  { DataDeclaration.bare "P" "FOLK" "Person" with
    columns := [⟨"STATE", "State", some "STATES"⟩, ⟨"KIND", "Kind", some "KINDS"⟩]
    conversions := [⟨"GONE", "STATE", "state"⟩] }

def stateModel : Model := { Model.bare "States" with data := [stateDeclaration] }

theorem check_tells_of_declaration_states :
    Reading.data stateDeclaration ∈ stateModel.readings ∧
      "Person" ∈ folkSchema.classes.keys ∧
      "Unknown VALUEMAP STATES for Person.State" ∈ stateModel.check folkSchema ∧
      "Unknown attribute Kind on Person" ∈ stateModel.check folkSchema ∧
      "Unknown conversion map GONE in DATA P" ∈ stateModel.check folkSchema := by
  have member : Reading.data stateDeclaration ∈ stateModel.readings := List.mem_singleton.mpr rfl
  have known : "Person" ∈ folkSchema.classes.keys := by decide
  obtain ⟨columns, calls⟩ := check_tells_of_declaration (r := .data stateDeclaration) member known
  have offered : folkSchema.Offers "Person" "State" := Schema.offersAttribute_iff.mp (by decide)
  have unknown : ¬ folkSchema.Offers "Person" "Kind" :=
    mt Schema.offersAttribute_iff.mpr (by decide)
  refine ⟨member, known, ?_, ?_, ?_⟩
  · have told := columns ⟨"STATE", "State", some "STATES"⟩ "State" (.inl (by decide)) (by decide)
      ⟨by decide, .inl rfl⟩
    exact (told.2 "STATES" rfl (by decide)).1 offered
  · have told := columns ⟨"KIND", "Kind", some "KINDS"⟩ "Kind" (.inl (by decide)) (by decide)
      ⟨by decide, .inl rfl⟩
    exact told.1 unknown
  · exact calls ⟨"GONE", "STATE", "state"⟩ (by decide) (by decide)

/-- An undeclared value map is not told of where the column ends in an unknown attribute. -/
theorem check_hides_undeclared_map :
    Reading.data stateDeclaration ∈ stateModel.readings ∧
      "Person" ∈ folkSchema.classes.keys ∧
      (∃ c, (Reading.data stateDeclaration).HasColumn c ∧ c.isSynthetic = false ∧
        Text.IsLastSegment "Kind" c.targetPath ∧ ¬ folkSchema.Offers "Person" "Kind" ∧
        c.valueMap = some "KINDS" ∧ "KINDS" ∉ stateModel.valueMaps.keys) ∧
      "Unknown VALUEMAP KINDS for Person.Kind" ∉ stateModel.check folkSchema := by
  refine ⟨List.mem_singleton.mpr rfl, by decide, ?_, by decide +kernel⟩
  refine ⟨⟨"KIND", "Kind", some "KINDS"⟩, .inl (by decide), by decide, ⟨by decide, .inl rfl⟩, ?_⟩
  exact ⟨mt Schema.offersAttribute_iff.mpr (by decide), rfl, by decide⟩

end Crossmap
