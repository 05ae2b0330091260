import Crossmap.Proofs.Json.Codecs
import Crossmap.Schema.Codec

/-! # Schemas in documents

A schema is found again in the document that it is written as (`readsBack_schema`). Reading the text
of a schema gives it names from its keys, which changes nothing where it has these names
(`Schema.nameByKeys_of_namedByKeys`).
-/

namespace Crossmap

open Document

/-- Attributes are found again in their documents. -/
theorem readsBack_attributeDeclaration :
    ReadsBack AttributeDeclaration.toJson AttributeDeclaration.ofDocument? := by
  intro a
  obtain ⟨_, name, nameRead⟩ := readsBack_text.orElse "" a.name
  obtain ⟨_, kind, kindRead⟩ := readsBack_text.orElse "" a.kind
  obtain ⟨_, isMandatory, isMandatoryRead⟩ := readsBack_truth.orElse false a.isMandatory
  obtain ⟨_, reference, referenceRead⟩ := recovers_omittable a.reference
  obtain ⟨_, choices, choicesRead⟩ := recovers_ofTexts a.choices
  obtain ⟨t, written, fields⟩ :=
    exists_fields ["name", "typeKind", "mandatory", "referenceTarget", "enumValues"] (by decide) rfl
      (.cons name <| .cons kind <| .cons isMandatory <| .cons reference <| .cons choices .nil)
  refine ⟨t, ?_, ?_⟩
  · rcases a with ⟨_, _, _, _ | _, _ | ⟨_, _⟩⟩
    · exact written
    · exact written
    · exact written
    · exact written
  · simp only [AttributeDeclaration.ofDocument?, fields, Option.bind_eq_bind, Option.bind_some,
      nameRead, kindRead, isMandatoryRead, referenceRead, choicesRead]
    rfl

/-- Classes are found again in their documents, with their attributes in order. -/
theorem readsBack_classDeclaration :
    ReadsBack ClassDeclaration.toJson ClassDeclaration.ofDocument? := by
  intro c
  obtain ⟨_, name, nameRead⟩ := readsBack_text.orElse "" c.name
  obtain ⟨_, isStructure, isStructureRead⟩ := readsBack_truth.orElse false c.isStructure
  obtain ⟨_, superclass, superclassRead⟩ := recovers_omittable c.superclass
  obtain ⟨_, attributes, attributesRead⟩ :=
    readsBack_attributeDeclaration.dictOf.orElse .empty c.attributes
  obtain ⟨t, written, fields⟩ :=
    exists_fields ["name", "structure", "superClass", "attributes"] (by decide) rfl
      (.cons name <| .cons isStructure <| .cons superclass <| .cons attributes .nil)
  refine ⟨t, ?_, ?_⟩
  · rcases c with ⟨_, _, _ | _, _⟩
    · exact written
    · exact written
  · simp only [ClassDeclaration.ofDocument?, fields, Option.bind_eq_bind, Option.bind_some,
      nameRead, isStructureRead, superclassRead, attributesRead]
    rfl

/-- Schemas are found again in their documents, with their classes in order. -/
theorem readsBack_schema : ReadsBack Schema.toJson Schema.ofDocument? := by
  intro s
  obtain ⟨_, classes, classesRead⟩ := readsBack_classDeclaration.dictOf.orElse .empty s.classes
  obtain ⟨t, written, fields⟩ := exists_fields ["classes"] (by decide) rfl (.cons classes .nil)
  refine ⟨t, written, ?_⟩
  simp only [Schema.ofDocument?, fields, Option.bind_eq_bind, Option.bind_some, classesRead]
  rfl

/-! ## Names and keys -/

/-- Whether classes and attributes are named as the keys under which they stand. -/
structure ClassDeclaration.NamedByKeys (key : String) (c : ClassDeclaration) : Prop where
  name : c.name = key
  attributes : ∀ e ∈ c.attributes.entries, e.2.name = e.1

def Schema.NamedByKeys (s : Schema) : Prop :=
  ∀ e ∈ s.classes.entries, e.2.NamedByKeys e.1

/-- A dictionary whose values stay the same stays the same. -/
theorem Dict.mapValues_eq_self {κ α : Type} {f : κ → α → α} {d : Dict κ α}
    (same : ∀ e ∈ d.entries, f e.1 e.2 = e.2) : d.mapValues f = d := by
  apply Dict.ext
  have each : ∀ e ∈ d.entries, (e.1, f e.1 e.2) = id e :=
    fun e member => Prod.ext rfl (same e member)
  exact (List.map_congr_left each).trans (List.map_id d.entries)

/-- A class that bears the names of its keys keeps them. -/
theorem ClassDeclaration.nameByKeys_of_namedByKeys {key : String} {c : ClassDeclaration}
    (named : c.NamedByKeys key) : c.nameByKeys key = c := by
  have attributes : (c.attributes.mapValues fun k a => { a with name := k }) = c.attributes :=
    Dict.mapValues_eq_self fun e member => by rw [← named.attributes e member]
  rw [nameByKeys, attributes, ← named.name]

/-- A schema that bears the names of its keys keeps them. -/
theorem Schema.nameByKeys_of_namedByKeys {s : Schema} (named : s.NamedByKeys) :
    s.nameByKeys = s := by
  have classes : s.classes.mapValues ClassDeclaration.nameByKeys = s.classes :=
    Dict.mapValues_eq_self fun e member =>
      ClassDeclaration.nameByKeys_of_namedByKeys (named e member)
  rw [nameByKeys, classes]

end Crossmap
