import Crossmap.Mapping.Codec
import Crossmap.Proofs.Json.Codecs

/-! # Mapping models in documents

Every part of a mapping model is found again in the document that it is written as, and so is the
model (`readsBack_model`).
-/

namespace Crossmap.Mapping

open Document

/-- Value maps are found again in their documents, with their pairs in order. -/
theorem readsBack_valueMap : ReadsBack ValueMap.toJson ValueMap.ofDocument? := by
  intro m
  obtain ⟨_, name, nameRead⟩ := readsBack_text.required m.name
  obtain ⟨_, entries, entriesRead⟩ := readsBack_text.dictOfCodes.required m.entries
  obtain ⟨t, written, fields⟩ := exists_fields ["name", "entries"] (by decide) rfl
    (.cons name (.cons entries .nil))
  refine ⟨t, written, ?_⟩
  simp only [ValueMap.ofDocument?, fields, Option.bind_eq_bind, Option.bind_some, nameRead,
    entriesRead]
  rfl

/-- Directions are found again in their words. -/
theorem readsBack_direction :
    ReadsBack (fun d : Direction => .string d.text) Direction.ofDocument? :=
  readsBack_choice fun d => by cases d <;> decide

/-- Columns are found again in their documents. -/
theorem readsBack_column : ReadsBack Column.toJson Column.ofDocument? := by
  intro c
  obtain ⟨_, sourceColumn, sourceColumnRead⟩ := readsBack_text.required c.sourceColumn
  obtain ⟨_, targetPath, targetPathRead⟩ := readsBack_text.required c.targetPath
  obtain ⟨_, valueMap, valueMapRead⟩ := recovers_optional c.valueMap
  obtain ⟨t, written, fields⟩ :=
    exists_fields ["source_column", "target_path", "value_map"] (by decide) rfl
      (.cons sourceColumn (.cons targetPath (.cons valueMap .nil)))
  refine ⟨t, ?_, ?_⟩
  · rcases c with ⟨_, _, _ | _⟩
    · exact written
    · exact written
  · simp only [Column.ofDocument?, fields, Option.bind_eq_bind, Option.bind_some, sourceColumnRead,
      targetPathRead, valueMapRead]
    rfl

/-- Calls of a conversion are found again in their documents. -/
theorem readsBack_conversionCall :
    ReadsBack ConversionCall.toJson ConversionCall.ofDocument? := by
  intro c
  obtain ⟨_, valueMap, valueMapRead⟩ := readsBack_text.required c.valueMap
  obtain ⟨_, sourceColumn, sourceColumnRead⟩ := readsBack_text.required c.sourceColumn
  obtain ⟨_, targetAlias, targetAliasRead⟩ := readsBack_text.required c.targetAlias
  obtain ⟨t, written, fields⟩ :=
    exists_fields ["value_map", "source_column", "target_alias"] (by decide) rfl
      (.cons valueMap (.cons sourceColumn (.cons targetAlias .nil)))
  refine ⟨t, written, ?_⟩
  simp only [ConversionCall.ofDocument?, fields, Option.bind_eq_bind, Option.bind_some,
    valueMapRead, sourceColumnRead, targetAliasRead]
  rfl

/-- Aliases are found again in their documents. -/
theorem readsBack_aliasDeclaration :
    ReadsBack AliasDeclaration.toJson AliasDeclaration.ofDocument? := by
  intro a
  obtain ⟨_, shortName, shortNameRead⟩ := readsBack_text.required a.shortName
  obtain ⟨_, className, classNameRead⟩ := readsBack_text.required a.className
  obtain ⟨t, written, fields⟩ := exists_fields ["alias", "class_name"] (by decide) rfl
    (.cons shortName (.cons className .nil))
  refine ⟨t, written, ?_⟩
  simp only [AliasDeclaration.ofDocument?, fields, Option.bind_eq_bind, Option.bind_some,
    shortNameRead, classNameRead]
  rfl

/-- Filters are found again in their documents. -/
theorem readsBack_withBlock : ReadsBack WithBlock.toJson WithBlock.ofDocument? := by
  intro w
  obtain ⟨_, aliasName, aliasNameRead⟩ := readsBack_text.required w.aliasName
  obtain ⟨_, columns, columnsRead⟩ := readsBack_column.listOf.required w.columns
  obtain ⟨t, written, fields⟩ := exists_fields ["alias", "columns"] (by decide) rfl
    (.cons aliasName (.cons columns .nil))
  refine ⟨t, written, ?_⟩
  simp only [WithBlock.ofDocument?, fields, Option.bind_eq_bind, Option.bind_some, aliasNameRead,
    columnsRead]
  rfl

/-- Joins are found again in their documents. -/
theorem readsBack_joinDeclaration :
    ReadsBack JoinDeclaration.toJson JoinDeclaration.ofDocument? := by
  intro j
  obtain ⟨_, joinType, joinTypeRead⟩ := readsBack_text.required j.joinType
  obtain ⟨_, source, sourceRead⟩ := readsBack_text.required j.source
  obtain ⟨_, leftColumn, leftColumnRead⟩ := readsBack_text.required j.leftColumn
  obtain ⟨_, rightColumn, rightColumnRead⟩ := readsBack_text.required j.rightColumn
  obtain ⟨t, written, fields⟩ :=
    exists_fields ["join_type", "source", "left_column", "right_column"] (by decide) rfl
      (.cons joinType (.cons source (.cons leftColumn (.cons rightColumn .nil))))
  refine ⟨t, written, ?_⟩
  simp only [JoinDeclaration.ofDocument?, fields, Option.bind_eq_bind, Option.bind_some,
    joinTypeRead, sourceRead, leftColumnRead, rightColumnRead]
  rfl

/-- Nestings are found again in their documents. -/
theorem readsBack_nestingDeclaration :
    ReadsBack NestingDeclaration.toJson NestingDeclaration.ofDocument? := by
  intro n
  obtain ⟨_, child, childRead⟩ := readsBack_text.required n.child
  obtain ⟨_, byColumn, byColumnRead⟩ := readsBack_text.required n.byColumn
  obtain ⟨t, written, fields⟩ := exists_fields ["child", "by_column"] (by decide) rfl
    (.cons child (.cons byColumn .nil))
  refine ⟨t, written, ?_⟩
  simp only [NestingDeclaration.ofDocument?, fields, Option.bind_eq_bind, Option.bind_some,
    childRead, byColumnRead]
  rfl

/-- DATA declarations are found again in their documents, each clause under its own name. -/
theorem readsBack_dataDeclaration :
    ReadsBack DataDeclaration.toJson DataDeclaration.ofDocument? := by
  intro d
  obtain ⟨_, name, nameRead⟩ := readsBack_text.required d.name
  obtain ⟨_, object, objectRead⟩ := readsBack_text.required d.object
  obtain ⟨_, className, classNameRead⟩ := readsBack_text.required d.className
  obtain ⟨_, direction, directionRead⟩ := readsBack_direction.required d.direction
  obtain ⟨_, identColumn, identColumnRead⟩ := recovers_ofText? d.identColumn
  obtain ⟨_, filter, filterRead⟩ := readsBack_text.dictOf.required d.filter
  obtain ⟨_, conversions, conversionsRead⟩ :=
    readsBack_conversionCall.listOf.required d.conversions
  obtain ⟨_, aliases, aliasesRead⟩ := readsBack_aliasDeclaration.listOf.required d.aliases
  obtain ⟨_, withBlocks, withBlocksRead⟩ := readsBack_withBlock.listOf.required d.withBlocks
  obtain ⟨_, annexeTargets, annexeTargetsRead⟩ := readsBack_texts.required d.annexeTargets
  obtain ⟨_, annexedSources, annexedSourcesRead⟩ := readsBack_texts.required d.annexedSources
  obtain ⟨_, joins, joinsRead⟩ := readsBack_joinDeclaration.listOf.required d.joins
  obtain ⟨_, nestings, nestingsRead⟩ := readsBack_nestingDeclaration.listOf.required d.nestings
  obtain ⟨_, columns, columnsRead⟩ := readsBack_column.listOf.required d.columns
  obtain ⟨t, written, fields⟩ := exists_fields DataDeclaration.memberNames (by decide) rfl
    (.cons name <| .cons object <| .cons className <| .cons direction <| .cons identColumn <|
      .cons filter <| .cons conversions <| .cons aliases <| .cons withBlocks <|
      .cons annexeTargets <| .cons annexedSources <| .cons joins <| .cons nestings <|
      .cons columns .nil)
  refine ⟨t, written, ?_⟩
  -- `simp` would go through the rest of the fields again after every field.
  rw [DataDeclaration.ofDocument?, fields, Option.bind_eq_bind, Option.bind_some]
  dsimp only
  rw [nameRead, objectRead, classNameRead, directionRead, identColumnRead, filterRead,
    conversionsRead, aliasesRead, withBlocksRead, annexeTargetsRead, annexedSourcesRead, joinsRead,
    nestingsRead, columnsRead]
  rfl

/-- INSPECTION declarations are found again in their documents. -/
theorem readsBack_inspection : ReadsBack Inspection.toJson Inspection.ofDocument? := by
  intro i
  obtain ⟨_, name, nameRead⟩ := readsBack_text.required i.name
  obtain ⟨_, object, objectRead⟩ := readsBack_text.required i.object
  obtain ⟨_, className, classNameRead⟩ := readsBack_text.required i.className
  obtain ⟨_, direction, directionRead⟩ := readsBack_direction.required i.direction
  obtain ⟨_, identColumn, identColumnRead⟩ := recovers_ofText? i.identColumn
  obtain ⟨_, parentColumn, parentColumnRead⟩ := recovers_ofText? i.parentColumn
  obtain ⟨_, structAttrColumn, structAttrColumnRead⟩ := recovers_ofText? i.structAttrColumn
  obtain ⟨_, structAttrMap, structAttrMapRead⟩ := recovers_ofText? i.structAttrMap
  obtain ⟨_, classColumn, classColumnRead⟩ := recovers_ofText? i.classColumn
  obtain ⟨_, classMap, classMapRead⟩ := recovers_ofText? i.classMap
  obtain ⟨_, conversions, conversionsRead⟩ :=
    readsBack_conversionCall.listOf.required i.conversions
  obtain ⟨_, aliases, aliasesRead⟩ := readsBack_aliasDeclaration.listOf.required i.aliases
  obtain ⟨_, withBlocks, withBlocksRead⟩ := readsBack_withBlock.listOf.required i.withBlocks
  obtain ⟨_, columns, columnsRead⟩ := readsBack_column.listOf.required i.columns
  obtain ⟨t, written, fields⟩ := exists_fields Inspection.memberNames (by decide) rfl
    (.cons name <| .cons object <| .cons className <| .cons direction <| .cons identColumn <|
      .cons parentColumn <| .cons structAttrColumn <| .cons structAttrMap <| .cons classColumn <|
      .cons classMap <| .cons conversions <| .cons aliases <| .cons withBlocks <|
      .cons columns .nil)
  refine ⟨t, written, ?_⟩
  rw [Inspection.ofDocument?, fields, Option.bind_eq_bind, Option.bind_some]
  dsimp only
  rw [nameRead, objectRead, classNameRead, directionRead, identColumnRead, parentColumnRead,
    structAttrColumnRead, structAttrMapRead, classColumnRead, classMapRead, conversionsRead,
    aliasesRead, withBlocksRead, columnsRead]
  rfl

/-- A mapping model is found again in its document, with its declarations and value maps in order.
-/
theorem readsBack_model : ReadsBack Model.toJson Model.ofDocument? := by
  intro m
  obtain ⟨_, name, nameRead⟩ := readsBack_text.required m.name
  obtain ⟨_, valueMaps, valueMapsRead⟩ := readsBack_valueMap.dictOf.required m.valueMaps
  obtain ⟨_, data, dataRead⟩ := readsBack_dataDeclaration.listOf.required m.data
  obtain ⟨_, inspections, inspectionsRead⟩ := readsBack_inspection.listOf.required m.inspections
  obtain ⟨t, written, fields⟩ :=
    exists_fields ["name", "value_maps", "data_declarations", "inspections"] (by decide) rfl
      (.cons name (.cons valueMaps (.cons data (.cons inspections .nil))))
  refine ⟨t, written, ?_⟩
  simp only [Model.ofDocument?, fields, Option.bind_eq_bind, Option.bind_some, nameRead,
    valueMapsRead, dataRead, inspectionsRead]
  rfl

end Crossmap.Mapping
