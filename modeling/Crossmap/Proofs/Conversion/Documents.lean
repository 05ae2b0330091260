import Crossmap.Conversion.Plan
import Crossmap.Conversion.Settings
import Crossmap.Conversion.Trace
import Crossmap.Proofs.Mapping.Documents
import Crossmap.Proofs.Schema.Documents
import Crossmap.Record.Codec

/-! # What is written to a document is read from it

Records, trace events and settings are found again in the documents that they are written as, and so
is what the document of a plan says. With mapping models and schemas, these are all the documents
that are written and read: none of them comes back changed (`documents_read_back`).
-/

namespace Crossmap

open Document Mapping

/-- Records are found again in their documents. -/
theorem readsBack_record : ReadsBack Record.toJson Record.ofDocument? := by
  intro r
  obtain ⟨_, className, classNameRead⟩ := readsBack_text.required r.className
  obtain ⟨_, ident, identRead⟩ := readsBack_text.required r.ident
  obtain ⟨_, parent, parentRead⟩ := recovers_omittable r.parent
  obtain ⟨_, structAttr, structAttrRead⟩ := recovers_omittable r.structAttr
  obtain ⟨_, values, valuesRead⟩ := readsBack_text.dictOf.orElse .empty r.values
  obtain ⟨t, written, fields⟩ :=
    exists_fields ["className", "ident", "parent", "structAttr", "values"] (by decide) rfl
      (.cons className <| .cons ident <| .cons parent <| .cons structAttr <| .cons values .nil)
  refine ⟨t, ?_, ?_⟩
  · rcases r with ⟨_, _, _ | _, _ | _, _⟩
    · exact written
    · exact written
    · exact written
    · exact written
  · simp only [Record.ofDocument?, fields, Option.bind_eq_bind, Option.bind_some, classNameRead,
      identRead, parentRead, structAttrRead, valuesRead]
    rfl

/-- Phases are found again in their words. -/
theorem readsBack_phase : ReadsBack (fun p : Phase => .string p.text) Phase.ofDocument? :=
  readsBack_choice fun p => by cases p <;> decide

/-- The events of a trace are found again in their documents. -/
theorem readsBack_traceEvent : ReadsBack TraceEvent.toJson TraceEvent.ofDocument? := by
  intro e
  obtain ⟨_, phase, phaseRead⟩ := readsBack_phase.required e.phase
  obtain ⟨_, className, classNameRead⟩ := readsBack_text.required e.className
  obtain ⟨_, ident, identRead⟩ := readsBack_text.required e.ident
  obtain ⟨_, source, sourceRead⟩ := readsBack_text.required e.source
  obtain ⟨_, target, targetRead⟩ := readsBack_text.required e.target
  obtain ⟨_, value, valueRead⟩ := recovers_ofText? e.value
  obtain ⟨_, detail, detailRead⟩ := readsBack_text.required e.detail
  obtain ⟨t, written, fields⟩ :=
    exists_fields ["phase", "className", "ident", "sourceColumn", "targetPath", "value", "detail"]
      (by decide) rfl
      (.cons phase <| .cons className <| .cons ident <| .cons source <| .cons target <|
        .cons value <| .cons detail .nil)
  refine ⟨t, written, ?_⟩
  simp only [TraceEvent.ofDocument?, fields, Option.bind_eq_bind, Option.bind_some, phaseRead,
    classNameRead, identRead, sourceRead, targetRead, valueRead, detailRead]
  rfl

/-- Settings are found again in their documents. -/
theorem readsBack_settings : ReadsBack Settings.toJson Settings.ofDocument? := by
  intro s
  obtain ⟨_, trace, traceRead⟩ := readsBack_truth.orElse Settings.standard.trace s.trace
  obtain ⟨_, checkSource, checkSourceRead⟩ :=
    readsBack_truth.orElse Settings.standard.checkSource s.checkSource
  obtain ⟨_, checkResult, checkResultRead⟩ :=
    readsBack_truth.orElse Settings.standard.checkResult s.checkResult
  obtain ⟨_, refuseUnfit, refuseUnfitRead⟩ :=
    readsBack_truth.orElse Settings.standard.refuseUnfit s.refuseUnfit
  obtain ⟨t, written, fields⟩ :=
    exists_fields ["trace", "validate_source_data", "validate_result", "fail_on_semantic_errors"]
      (by decide) rfl
      (.cons trace <| .cons checkSource <| .cons checkResult <| .cons refuseUnfit .nil)
  refine ⟨t, written, ?_⟩
  simp only [Settings.ofDocument?, fields, Option.bind_eq_bind, Option.bind_some, traceRead,
    checkSourceRead, checkResultRead, refuseUnfitRead]
  rfl

/-- The steps of a plan are found again in their documents. -/
theorem readsBack_planStep : ReadsBack PlanStep.toJson PlanStep.ofDocument? := by
  intro s
  obtain ⟨_, phase, phaseRead⟩ := readsBack_phase.required s.phase
  obtain ⟨_, source, sourceRead⟩ := readsBack_text.required s.source
  obtain ⟨_, target, targetRead⟩ := readsBack_text.required s.target
  obtain ⟨_, detail, detailRead⟩ := readsBack_text.required s.detail
  obtain ⟨t, written, fields⟩ :=
    exists_fields ["phase", "source", "target", "detail"] (by decide) rfl
      (.cons phase <| .cons source <| .cons target <| .cons detail .nil)
  refine ⟨t, written, ?_⟩
  simp only [PlanStep.ofDocument?, fields, Option.bind_eq_bind, Option.bind_some, phaseRead,
    sourceRead, targetRead, detailRead]
  rfl

/-- The plan without its models, of which its document keeps the names. -/
def Plan.withoutModels (p : Plan) : Plan :=
  { p with sourceModel := .bare "", targetModel := .bare "" }

/-- The document of a plan is read as the plan without its models. -/
theorem exists_plan_document (p : Plan) :
    ∃ t, p.toJson.WrittenAs t ∧ Plan.ofDocument? t = some p.withoutModels := by
  obtain ⟨_, schemaName, schemaNameRead⟩ := readsBack_text.required p.schemaName
  obtain ⟨_, sourceName, sourceNameRead⟩ := readsBack_text.required p.sourceName
  obtain ⟨_, targetName, targetNameRead⟩ := readsBack_text.required p.targetName
  obtain ⟨_, steps, stepsRead⟩ := readsBack_planStep.listOf.required p.steps
  obtain ⟨t, written, fields⟩ :=
    exists_fields ["kmModel", "sourceLm", "targetLm", "steps"] (by decide) rfl
      (.cons schemaName <| .cons sourceName <| .cons targetName <| .cons steps .nil)
  refine ⟨t, written, ?_⟩
  simp only [Plan.ofDocument?, fields, Option.bind_eq_bind, Option.bind_some, schemaNameRead,
    sourceNameRead, targetNameRead, stepsRead]
  rfl

/-- What reads back is found again in the text without any space. -/
theorem ReadsBack.read?_compact {α : Type} {encode : α → Json} {decode : JsonText → Option α}
    (back : ReadsBack encode decode) (x : α) :
    (JsonText.read? (encode x).compact).bind decode = some x := by
  obtain ⟨t, written, decoded⟩ := back x
  rw [written.read?_compact, Option.bind_some, decoded]

/-- **Documents come back unchanged.** A mapping model, a record, a trace event, settings and a
schema are found again in their texts, with the order of every map and list. Reading the text of a
schema whose classes and attributes are named as their keys gives that schema, and reading the text
of a plan gives what that text says of the plan: its names and its steps. -/
theorem documents_read_back :
    (∀ m : Model, (JsonText.read? m.toJson.compact).bind Model.ofDocument? = some m) ∧
    (∀ r : Record, (JsonText.read? r.toJson.compact).bind Record.ofDocument? = some r) ∧
    (∀ e : TraceEvent, (JsonText.read? e.toJson.compact).bind TraceEvent.ofDocument? = some e) ∧
    (∀ s : Settings, (JsonText.read? s.toJson.compact).bind Settings.ofDocument? = some s) ∧
    (∀ s : Schema, (JsonText.read? s.toJson.compact).bind Schema.ofDocument? = some s) ∧
    (∀ s : Schema, s.NamedByKeys → Schema.ofJsonText? s.toJson.compact = some s) ∧
    ∀ p : Plan, ∃ p', (JsonText.read? p.text).bind Plan.ofDocument? = some p' ∧
      p'.schemaName = p.schemaName ∧ p'.sourceName = p.sourceName ∧
      p'.targetName = p.targetName ∧ p'.steps = p.steps := by
  refine ⟨readsBack_model.read?_compact, readsBack_record.read?_compact,
    readsBack_traceEvent.read?_compact, readsBack_settings.read?_compact,
    readsBack_schema.read?_compact, ?_, ?_⟩
  · intro s named
    rw [Schema.ofJsonText?, readsBack_schema.read?_compact s, Option.map_some,
      Schema.nameByKeys_of_namedByKeys named]
  · intro p
    obtain ⟨t, written, decoded⟩ := exists_plan_document p
    refine ⟨p.withoutModels, ?_, rfl, rfl, rfl, rfl⟩
    rw [Plan.text, written.read?_pretty, Option.bind_some, decoded]

/-- A schema of one class with one attribute, of which the text holds characters with escapes. -/
def gardenSchema : Schema :=
  Schema.empty.addClass <| (ClassDeclaration.bare "Garden").addAttribute
    { AttributeDeclaration.plain "style" "Enum" with choices := ["\"wild\"", "back\\yard"] }

theorem documents_read_back_garden :
    gardenSchema.NamedByKeys ∧
      Schema.ofJsonText? gardenSchema.toJson.compact = some gardenSchema := by
  have named : gardenSchema.NamedByKeys := by
    intro e member
    obtain rfl := List.mem_singleton.mp member
    refine ⟨rfl, ?_⟩
    intro a member
    obtain rfl := List.mem_singleton.mp member
    rfl
  exact ⟨named, documents_read_back.2.2.2.2.2.1 gardenSchema named⟩

end Crossmap
