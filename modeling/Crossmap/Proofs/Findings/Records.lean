import Crossmap.Findings.Records
import Crossmap.Proofs.Schema.Documents
import Crossmap.Proofs.Text.Split

/-! # Records with empty attributes

A check of records judges a mandatory attribute by one entry of a record, however many there are
for it: by the one under the attribute itself, and where there is none by the first whose path ends
in it (`Record.Judges`). An attribute without any value is told of in any case, and one with a value
is not told of where all its entries are alike (`checkRecords_tells_of_attributes`).

Where they are not, a blank entry stands before one that is not blank, and the attribute is told of
although it has a value (`checkRecords_overlooks_value`).
-/

namespace Crossmap

/-- Whether a text has a character that is not blank. -/
def Text.HasSolid (text : String) : Prop := ∃ c ∈ text.toList, isBlank c = false

/-- A text is not blank exactly if it holds a solid character. -/
theorem Text.isBlankText_eq_false_iff {text : String} :
    isBlankText text = false ↔ HasSolid text := by
  rw [isBlankText, List.all_eq_false]
  simp only [HasSolid, Bool.not_eq_true]

namespace Record

variable {r : Record} {attributeName : String} {e : String × String}

/-- Whether a value of an attribute is not blank, under the attribute itself or under any path that
ends in it. -/
def Fills (r : Record) (attributeName : String) : Prop :=
  ∃ e ∈ r.values.entries, Text.IsLastSegment attributeName e.1 ∧ Text.HasSolid e.2

/-- Whether the entries for an attribute are all blank, or all of them are not. -/
def Uniform (r : Record) (attributeName : String) : Prop :=
  ∀ e ∈ r.values.entries, ∀ e' ∈ r.values.entries, Text.IsLastSegment attributeName e.1 →
    Text.IsLastSegment attributeName e'.1 → Text.HasSolid e.2 → Text.HasSolid e'.2

/-- The entry by which an attribute is judged. -/
inductive Judges (r : Record) (attributeName : String) (e : String × String) : Prop
  | own (member : e ∈ r.values.entries) (path : e.1 = attributeName)
  | first {before after : List (String × String)}
      (entries : r.values.entries = before ++ e :: after)
      (ends : Text.IsLastSegment attributeName e.1) (noOwn : attributeName ∉ r.values.keys)
      (foremost : ∀ e' ∈ before, ¬ Text.IsLastSegment attributeName e'.1)

/-- What judges an attribute is a value of the record. -/
theorem Judges.mem (judges : r.Judges attributeName e) : e ∈ r.values.entries := by
  cases judges with
  | own member => exact member
  | first entries => exact entries ▸ List.mem_append_right _ List.mem_cons_self

/-- What judges an attribute stands under a path that ends in it. -/
theorem Judges.ends (undotted : '.' ∉ attributeName.toList) (judges : r.Judges attributeName e) :
    Text.IsLastSegment attributeName e.1 := by
  cases judges with
  | own _ path => exact ⟨undotted, .inl path⟩
  | first _ ends => exact ends

end Record

/-! ## The entry that is looked at -/

section

variable {attributeName path : String}

/-- A dotted path ends in an attribute if that is its last segment. -/
theorem endsInAttribute_iff :
    endsInAttribute attributeName path = true ↔
      '.' ∈ path.toList ∧ Text.IsLastSegment attributeName path := by
  rw [endsInAttribute, Bool.and_eq_true, Text.hasChar, List.contains_iff_mem, decide_eq_true_iff,
    Text.lastSegment_eq_iff]

/-- A path other than the attribute ends in it exactly if it does so behind a dot. -/
theorem endsInAttribute_iff_of_ne (other : path ≠ attributeName) :
    endsInAttribute attributeName path = true ↔ Text.IsLastSegment attributeName path := by
  rw [endsInAttribute_iff, and_iff_right_iff_imp]
  rintro ⟨-, rfl | ⟨front, rfl⟩⟩
  · exact (other rfl).elim
  · simp

end

namespace Record

variable {r : Record} {attributeName : String}

/-- The value of an attribute is that of the entry that judges it. -/
theorem attributeValue?_eq_some_iff {value : String} :
    r.attributeValue? attributeName = some value ↔
      ∃ path, r.Judges attributeName (path, value) := by
  rw [attributeValue?, Option.or_eq_some_iff, Dict.get?_eq_some_iff, Dict.get?_eq_none_iff,
    Option.map_eq_some_iff]
  constructor
  · rintro (own | ⟨noOwn, ⟨path, _⟩, found, rfl⟩)
    · exact ⟨attributeName, .own own rfl⟩
    · obtain ⟨ends, before, after, entries, skipped⟩ := List.find?_eq_some_iff_append.mp found
      refine ⟨path, .first entries (endsInAttribute_iff.mp ends).2 noOwn fun e member ends' => ?_⟩
      have other : e.1 ≠ attributeName := by
        rintro rfl
        exact noOwn (List.mem_map_of_mem (entries ▸ List.mem_append_left _ member))
      have passed := skipped e member
      rw [(endsInAttribute_iff_of_ne other).mpr ends'] at passed
      cases passed
  · rintro ⟨path, judges⟩
    cases judges with
    | own member path => exact .inl (path ▸ member)
    | first entries ends noOwn foremost =>
        have other {e : String × String} (member : e ∈ r.values.entries) : e.1 ≠ attributeName := by
          rintro rfl
          exact noOwn (List.mem_map_of_mem member)
        have judges := Judges.first entries ends noOwn foremost
        refine .inr ⟨noOwn, (path, value), List.find?_eq_some_iff_append.mpr ⟨?_, ?_⟩, rfl⟩
        · exact (endsInAttribute_iff_of_ne (other judges.mem)).mpr ends
        · refine ⟨_, _, entries, fun e member => ?_⟩
          have inEntries := entries ▸ List.mem_append_left _ member
          rw [Bool.not_eq_true', ← Bool.not_eq_true, endsInAttribute_iff_of_ne (other inEntries)]
          exact foremost e member

/-- An attribute is filled exactly if the entry that judges it is not blank. -/
theorem isFilled_iff :
    r.isFilled attributeName = true ↔ ∃ e, r.Judges attributeName e ∧ Text.HasSolid e.2 := by
  rw [isFilled, Option.any_eq_true]
  simp only [attributeValue?_eq_some_iff, Bool.not_eq_true', Text.isBlankText_eq_false_iff]
  constructor
  · rintro ⟨value, ⟨path, judges⟩, solid⟩
    exact ⟨(path, value), judges, solid⟩
  · rintro ⟨⟨path, value⟩, judges, solid⟩
    exact ⟨value, ⟨path, judges⟩, solid⟩

/-- Where there is an entry for an attribute, one judges it. -/
theorem exists_judges {e : String × String} (member : e ∈ r.values.entries)
    (ends : Text.IsLastSegment attributeName e.1) : ∃ e', r.Judges attributeName e' := by
  cases looked : r.attributeValue? attributeName with
  | some value =>
      obtain ⟨path, judges⟩ := attributeValue?_eq_some_iff.mp looked
      exact ⟨_, judges⟩
  | none =>
      rw [attributeValue?, Option.or_eq_none_iff, Option.map_eq_none_iff,
        Dict.get?_eq_none_iff] at looked
      have other : e.1 ≠ attributeName := by
        rintro rfl
        exact looked.1 (List.mem_map_of_mem member)
      have passed := List.find?_eq_none.mp looked.2 e member
      exact (passed ((endsInAttribute_iff_of_ne other).mpr ends)).elim

/-! ## What a check of records tells -/

/-- The mandatory attributes of a class whose entry is blank or missing. -/
def emptyAttributes (c : ClassDeclaration) (r : Record) : List String :=
  (c.attributes.entries.filter fun e => e.2.isMandatory && !r.isFilled e.1).map Prod.fst

/-- Empty attributes are listed in the order in which the class declares them. -/
theorem emptyAttributes_sublist (c : ClassDeclaration) (r : Record) :
    (r.emptyAttributes c).Sublist c.attributes.keys :=
  List.filter_sublist.map Prod.fst

/-- An attribute is listed as empty exactly if it is mandatory and the entry that judges it is blank
or missing. -/
theorem mem_emptyAttributes_iff {c : ClassDeclaration} {a : AttributeDeclaration}
    (declared : (attributeName, a) ∈ c.attributes.entries) :
    attributeName ∈ r.emptyAttributes c ↔
      a.isMandatory = true ∧ ¬ ∃ e, r.Judges attributeName e ∧ Text.HasSolid e.2 := by
  rw [emptyAttributes, List.mem_map, ← isFilled_iff, Bool.not_eq_true]
  simp only [List.mem_filter, Bool.and_eq_true, Bool.not_eq_true']
  constructor
  · rintro ⟨⟨_, a'⟩, ⟨member, mandatory, blank⟩, rfl⟩
    rw [← Dict.get?_eq_some_iff] at declared member
    obtain rfl := Option.some.inj (declared.symm.trans member)
    exact ⟨mandatory, blank⟩
  · rintro ⟨mandatory, blank⟩
    exact ⟨(attributeName, a), ⟨declared, mandatory, blank⟩, rfl⟩

/-- Of a record of a known class, the empty attributes are told, with its ident. -/
theorem findings_of_class {s : Schema} {c : ClassDeclaration} (named : c.NamedByKeys r.className)
    (declared : (r.className, c) ∈ s.classes.entries) :
    r.findings s =
      (r.emptyAttributes c).map fun a => .emptyMandatory r.className a r.ident := by
  rw [findings, Schema.class?, Dict.get?_eq_some_iff.mpr declared]
  simp only [ClassDeclaration.mandatoryAttributes, Dict.values, emptyAttributes, List.filter_map,
    List.filter_filter, List.map_map]
  have kept : c.attributes.entries.filter (fun e => (!r.isFilled e.2.name) && e.2.isMandatory) =
      c.attributes.entries.filter (fun e => e.2.isMandatory && !r.isFilled e.1) :=
    List.filter_congr fun e member => by rw [named.attributes e member, Bool.and_comm]
  refine (congrArg _ kept).trans (List.map_congr_left fun e member => ?_)
  rw [Function.comp_apply, Function.comp_apply,
    named.attributes e (List.mem_of_mem_filter member)]

/-- Of a record of an unknown class, nothing but the class is told. -/
theorem findings_of_unknown {s : Schema} (unknown : r.className ∉ s.classes.keys) :
    r.findings s = [.unknownClass r.className] := by
  rw [findings, Schema.class?, Dict.get?_eq_none_iff.mpr unknown]

/-- Where the entries for an attribute are alike, the one that judges it tells of all. -/
theorem exists_judges_iff_fills (undotted : '.' ∉ attributeName.toList)
    (uniform : r.Uniform attributeName) :
    (∃ e, r.Judges attributeName e ∧ Text.HasSolid e.2) ↔ r.Fills attributeName := by
  constructor
  · rintro ⟨e, judges, solid⟩
    exact ⟨e, judges.mem, judges.ends undotted, solid⟩
  · rintro ⟨e, member, ends, solid⟩
    obtain ⟨e', judges⟩ := exists_judges member ends
    exact ⟨e', judges, uniform e member e' judges.mem ends (judges.ends undotted) solid⟩

end Record

/-- The messages about records are those about each of them, one after another. -/
theorem Schema.checkRecords_eq_flatMap (s : Schema) (records : List Record) :
    s.checkRecords records = records.flatMap fun r => s.checkRecords [r] := by
  simp only [checkRecords, List.flatMap_singleton]
  exact List.map_flatMap

/-- **What a check of records tells of attributes**, where classes and attributes are named as they
are declared, and attributes without dots. Of a record of an unknown class it tells just that. Of
any other record it tells of mandatory attributes, in the order in which the class declares them and
of none twice: of those whose judging entry is blank or missing. These are all that have no value,
and no others unless an attribute has both blank entries and others. -/
theorem checkRecords_tells_of_attributes {s : Schema} (named : s.NamedByKeys)
    (undotted : ∀ e ∈ s.classes.entries, ∀ a ∈ e.2.attributes.keys, '.' ∉ a.toList)
    (records : List Record) :
    (s.checkRecords records = records.flatMap fun r => s.checkRecords [r]) ∧
      ∀ r : Record,
        (r.className ∉ s.classes.keys →
          s.checkRecords [r] = ["Result contains unknown class " ++ r.className]) ∧
        ∀ c, (r.className, c) ∈ s.classes.entries →
          ∃ empty : List String, empty.Sublist c.attributes.keys ∧ empty.Nodup ∧
            (s.checkRecords [r] = empty.map fun a =>
              "Mandatory attribute " ++ r.className ++ "." ++ a ++ " is empty for ident "
                ++ r.ident) ∧
            ∀ a d, (a, d) ∈ c.attributes.entries →
              (a ∈ empty ↔ d.isMandatory = true ∧ ¬ ∃ e, r.Judges a e ∧ Text.HasSolid e.2) ∧
              (d.isMandatory = true → ¬ r.Fills a → a ∈ empty) ∧
              (r.Uniform a → (a ∈ empty ↔ d.isMandatory = true ∧ ¬ r.Fills a)) := by
  refine ⟨s.checkRecords_eq_flatMap records, fun r => ⟨fun unknown => ?_, fun c declared => ?_⟩⟩
  · rw [Schema.checkRecords, List.flatMap_singleton, Record.findings_of_unknown unknown]
    rfl
  · have sublist := r.emptyAttributes_sublist c
    refine ⟨r.emptyAttributes c, sublist, sublist.nodup c.attributes.nodup_keys, ?_, ?_⟩
    · rw [Schema.checkRecords, List.flatMap_singleton,
        Record.findings_of_class (named _ declared) declared, List.map_map]
      rfl
    · intro a d inClass
      have noDot := undotted _ declared a (List.mem_map_of_mem inClass)
      have told := Record.mem_emptyAttributes_iff (r := r) inClass
      refine ⟨told, fun isMandatory empty => told.mpr ⟨isMandatory, ?_⟩, fun uniform => ?_⟩
      · rintro ⟨e, judges, solid⟩
        exact empty ⟨e, judges.mem, judges.ends noDot, solid⟩
      · rw [told, Record.exists_judges_iff_fills noDot uniform]

/-- Persons with a name, and maybe a note. -/
def namedSchema : Schema :=
  Schema.empty.addClass
    (((ClassDeclaration.bare "Person").addAttribute
      { AttributeDeclaration.plain "Name" "TEXT" with isMandatory := true }).addAttribute
      (.plain "Note" "TEXT"))

theorem namedSchema_namedByKeys : namedSchema.NamedByKeys := by
  refine List.forall_mem_singleton.mpr ⟨rfl, ?_⟩
  exact List.forall_mem_cons.mpr ⟨rfl, List.forall_mem_singleton.mpr rfl⟩

theorem namedSchema_undotted :
    ∀ e ∈ namedSchema.classes.entries, ∀ a ∈ e.2.attributes.keys, '.' ∉ a.toList := by
  decide

/-- A person whose name is blank. -/
def namelessRecord : Record := (Record.bare "Person" "2").setValue "Person.Name" " "

/-- A blank name is told of, and so is a class that the schema does not know. -/
theorem checkRecords_tells_of_attributes_nameless :
    namedSchema.NamedByKeys ∧
      (∀ e ∈ namedSchema.classes.entries, ∀ a ∈ e.2.attributes.keys, '.' ∉ a.toList) ∧
      "Ghost" ∉ namedSchema.classes.keys ∧ ¬ namelessRecord.Fills "Name" ∧
      namedSchema.checkRecords [namelessRecord, .bare "Ghost" "4"] =
        ["Mandatory attribute Person.Name is empty for ident 2",
          "Result contains unknown class Ghost"] := by
  obtain ⟨inOrder, each⟩ := checkRecords_tells_of_attributes namedSchema_namedByKeys
    namedSchema_undotted [namelessRecord, .bare "Ghost" "4"]
  have unknown : "Ghost" ∉ namedSchema.classes.keys := by decide
  have blank : ¬ namelessRecord.Fills "Name" := by
    rintro ⟨e, member, -, solid⟩
    obtain rfl := List.mem_singleton.mp member
    exact absurd (Text.isBlankText_eq_false_iff.mpr solid) (by decide)
  obtain ⟨empty, sublist, -, messages, told⟩ :=
    (each namelessRecord).2 _ (List.mem_singleton.mpr rfl)
  have name : "Name" ∈ empty := (told "Name" _ List.mem_cons_self).2.1 rfl blank
  have note : "Note" ∉ empty := fun member =>
    absurd ((told "Note" _ (List.mem_cons_of_mem _ List.mem_cons_self)).1.mp member).1 (by decide)
  have only : empty = ["Name"] := by
    rcases List.sublist_cons_iff.mp sublist with rest | ⟨rest, rfl, inRest⟩
    · exact absurd (List.mem_singleton.mp (rest.subset name)) (by decide)
    · rcases List.sublist_singleton.mp inRest with rfl | rfl
      · rfl
      · exact (note (by decide)).elim
  refine ⟨namedSchema_namedByKeys, namedSchema_undotted, unknown, blank, ?_⟩
  rw [inOrder, List.flatMap_cons, messages, only, List.flatMap_singleton, (each _).1 unknown]
  rfl

/-- A person whose name is blank under a path and not blank under a second one. -/
def renamedRecord (blankPath path : String) : Record :=
  ((Record.bare "Person" "1").setValue blankPath " ").setValue path "Ann"

/-- A mandatory attribute is told of although it has a value: where it is blank by itself, and where
the first of its paths leads to a blank. -/
theorem checkRecords_overlooks_value :
    namedSchema.NamedByKeys ∧
      (∀ e ∈ namedSchema.classes.entries, ∀ a ∈ e.2.attributes.keys, '.' ∉ a.toList) ∧
      ∀ r ∈ [renamedRecord "Name" "Person.Name", renamedRecord "First.Name" "Last.Name"],
        r.Fills "Name" ∧ namedSchema.checkRecords [r] =
          ["Mandatory attribute Person.Name is empty for ident 1"] := by
  refine ⟨namedSchema_namedByKeys, namedSchema_undotted, List.forall_mem_cons.mpr ⟨?_, ?_⟩⟩
  · refine ⟨⟨("Person.Name", "Ann"), by decide, ⟨by decide, .inr ⟨"Person", by decide⟩⟩, ?_⟩, ?_⟩
    · exact ⟨'A', by decide, by decide⟩
    · decide +kernel
  · refine List.forall_mem_singleton.mpr
      ⟨⟨("Last.Name", "Ann"), by decide, ⟨by decide, .inr ⟨"Last", by decide⟩⟩, ?_⟩, ?_⟩
    · exact ⟨'A', by decide, by decide⟩
    · decide +kernel

end Crossmap
