import Crossmap.Json.Printer
import Crossmap.Document.Basic
import Crossmap.Mapping.Model

/-!
# Mapping models as documents

How the parts of a mapping model are written as JSON and read from a document. Members stand in
the order of the fields; an option that is absent is written as null, except the value map of a
column, which is left out.
-/

namespace Crossmap.Mapping

open Document

variable {δ : Type} [Document δ]

namespace ValueMap

/-- The document of a value map. -/
def toJson (m : ValueMap) : Json :=
  .object [("name", .string m.name),
    ("entries", .object (m.entries.entries.map fun e => (e.1.text, .string e.2)))]

/-- Reads a value map. -/
def ofDocument? (node : δ) : Option ValueMap := do
  match ← fields? ["name", "entries"] node with
  | [name, entries] =>
    return {
      name := ← name.required text?
      entries := ← entries.required (dictOf? coded? text?) }
  | _ => none

end ValueMap

namespace Direction

/-- Reads a direction. -/
def ofDocument? (node : δ) : Option Direction := (choice? node).bind ofText?

end Direction

namespace Column

/-- The document of a column. -/
def toJson (c : Column) : Json :=
  .object ([("source_column", .string c.sourceColumn), ("target_path", .string c.targetPath)]
    ++ (c.valueMap.map fun m => ("value_map", Json.string m)).toList)

/-- Reads a column. -/
def ofDocument? (node : δ) : Option Column := do
  match ← fields? ["source_column", "target_path", "value_map"] node with
  | [sourceColumn, targetPath, valueMap] =>
    return {
      sourceColumn := ← sourceColumn.required text?
      targetPath := ← targetPath.required text?
      valueMap := ← valueMap.optional text? }
  | _ => none

end Column

namespace ConversionCall

/-- The document of a conversion. -/
def toJson (c : ConversionCall) : Json :=
  .object [("value_map", .string c.valueMap), ("source_column", .string c.sourceColumn),
    ("target_alias", .string c.targetAlias)]

/-- Reads a conversion. -/
def ofDocument? (node : δ) : Option ConversionCall := do
  match ← fields? ["value_map", "source_column", "target_alias"] node with
  | [valueMap, sourceColumn, targetAlias] =>
    return {
      valueMap := ← valueMap.required text?
      sourceColumn := ← sourceColumn.required text?
      targetAlias := ← targetAlias.required text? }
  | _ => none

end ConversionCall

namespace AliasDeclaration

/-- The document of an alias. -/
def toJson (a : AliasDeclaration) : Json :=
  .object [("alias", .string a.shortName), ("class_name", .string a.className)]

/-- Reads an alias. -/
def ofDocument? (node : δ) : Option AliasDeclaration := do
  match ← fields? ["alias", "class_name"] node with
  | [shortName, className] =>
    return { shortName := ← shortName.required text?, className := ← className.required text? }
  | _ => none

end AliasDeclaration

namespace WithBlock

/-- The document of a block of columns. -/
def toJson (w : WithBlock) : Json :=
  .object [("alias", .string w.aliasName), ("columns", .array (w.columns.map Column.toJson))]

/-- Reads a block of columns. -/
def ofDocument? (node : δ) : Option WithBlock := do
  match ← fields? ["alias", "columns"] node with
  | [aliasName, columns] =>
    return {
      aliasName := ← aliasName.required text?
      columns := ← columns.required (listOf? Column.ofDocument?) }
  | _ => none

end WithBlock

namespace JoinDeclaration

/-- The document of a join. -/
def toJson (j : JoinDeclaration) : Json :=
  .object [("join_type", .string j.joinType), ("source", .string j.source),
    ("left_column", .string j.leftColumn), ("right_column", .string j.rightColumn)]

/-- Reads a join. -/
def ofDocument? (node : δ) : Option JoinDeclaration := do
  match ← fields? ["join_type", "source", "left_column", "right_column"] node with
  | [joinType, source, leftColumn, rightColumn] =>
    return {
      joinType := ← joinType.required text?
      source := ← source.required text?
      leftColumn := ← leftColumn.required text?
      rightColumn := ← rightColumn.required text? }
  | _ => none

end JoinDeclaration

namespace NestingDeclaration

/-- The document of a nesting. -/
def toJson (n : NestingDeclaration) : Json :=
  .object [("child", .string n.child), ("by_column", .string n.byColumn)]

/-- Reads a nesting. -/
def ofDocument? (node : δ) : Option NestingDeclaration := do
  match ← fields? ["child", "by_column"] node with
  | [child, byColumn] =>
    return { child := ← child.required text?, byColumn := ← byColumn.required text? }
  | _ => none

end NestingDeclaration

namespace DataDeclaration

/-- The document of a data declaration. -/
def toJson (d : DataDeclaration) : Json :=
  .object [("name", .string d.name), ("source_object", .string d.object),
    ("class_name", .string d.className), ("direction", .string d.direction.text),
    ("ident_column", .ofText? d.identColumn),
    ("filter", .object (d.filter.entries.map fun e => (e.1, .string e.2))),
    ("conversions", .array (d.conversions.map ConversionCall.toJson)),
    ("aliases", .array (d.aliases.map AliasDeclaration.toJson)),
    ("with_blocks", .array (d.withBlocks.map WithBlock.toJson)),
    ("annexe_targets", .ofTexts d.annexeTargets),
    ("annexed_sources", .ofTexts d.annexedSources),
    ("joins", .array (d.joins.map JoinDeclaration.toJson)),
    ("nestings", .array (d.nestings.map NestingDeclaration.toJson)),
    ("columns", .array (d.columns.map Column.toJson))]

/-- The names of the members of a data declaration. -/
def memberNames : List String :=
  ["name", "source_object", "class_name", "direction", "ident_column", "filter", "conversions",
    "aliases", "with_blocks", "annexe_targets", "annexed_sources", "joins", "nestings", "columns"]

/-- Reads a data declaration. -/
def ofDocument? (node : δ) : Option DataDeclaration := do
  match ← fields? memberNames node with
  | [name, object, className, direction, identColumn, filter, conversions, aliases, withBlocks,
      annexeTargets, annexedSources, joins, nestings, columns] =>
    return {
      name := ← name.required text?
      object := ← object.required text?
      className := ← className.required text?
      direction := ← direction.required Direction.ofDocument?
      identColumn := ← identColumn.optional text?
      filter := ← filter.required (dictOf? members? text?)
      conversions := ← conversions.required (listOf? ConversionCall.ofDocument?)
      aliases := ← aliases.required (listOf? AliasDeclaration.ofDocument?)
      withBlocks := ← withBlocks.required (listOf? WithBlock.ofDocument?)
      annexeTargets := ← annexeTargets.required texts?
      annexedSources := ← annexedSources.required texts?
      joins := ← joins.required (listOf? JoinDeclaration.ofDocument?)
      nestings := ← nestings.required (listOf? NestingDeclaration.ofDocument?)
      columns := ← columns.required (listOf? Column.ofDocument?) }
  | _ => none

end DataDeclaration

namespace Inspection

/-- The document of an inspection. -/
def toJson (i : Inspection) : Json :=
  .object [("name", .string i.name), ("source_object", .string i.object),
    ("class_name", .string i.className), ("direction", .string i.direction.text),
    ("ident_column", .ofText? i.identColumn), ("parent_column", .ofText? i.parentColumn),
    ("struct_attr_column", .ofText? i.structAttrColumn),
    ("struct_attr_map", .ofText? i.structAttrMap), ("class_column", .ofText? i.classColumn),
    ("class_map", .ofText? i.classMap),
    ("conversions", .array (i.conversions.map ConversionCall.toJson)),
    ("aliases", .array (i.aliases.map AliasDeclaration.toJson)),
    ("with_blocks", .array (i.withBlocks.map WithBlock.toJson)),
    ("columns", .array (i.columns.map Column.toJson))]

/-- The names of the members of an inspection. -/
def memberNames : List String :=
  ["name", "source_object", "class_name", "direction", "ident_column", "parent_column",
    "struct_attr_column", "struct_attr_map", "class_column", "class_map", "conversions",
    "aliases", "with_blocks", "columns"]

/-- Reads an inspection. -/
def ofDocument? (node : δ) : Option Inspection := do
  match ← fields? memberNames node with
  | [name, object, className, direction, identColumn, parentColumn, structAttrColumn,
      structAttrMap, classColumn, classMap, conversions, aliases, withBlocks, columns] =>
    return {
      name := ← name.required text?
      object := ← object.required text?
      className := ← className.required text?
      direction := ← direction.required Direction.ofDocument?
      identColumn := ← identColumn.optional text?
      parentColumn := ← parentColumn.optional text?
      structAttrColumn := ← structAttrColumn.optional text?
      structAttrMap := ← structAttrMap.optional text?
      classColumn := ← classColumn.optional text?
      classMap := ← classMap.optional text?
      conversions := ← conversions.required (listOf? ConversionCall.ofDocument?)
      aliases := ← aliases.required (listOf? AliasDeclaration.ofDocument?)
      withBlocks := ← withBlocks.required (listOf? WithBlock.ofDocument?)
      columns := ← columns.required (listOf? Column.ofDocument?) }
  | _ => none

end Inspection

namespace Model

/-- The document of a model. -/
def toJson (m : Model) : Json :=
  .object [("name", .string m.name),
    ("value_maps", .object (m.valueMaps.entries.map fun e => (e.1, e.2.toJson))),
    ("data_declarations", .array (m.data.map DataDeclaration.toJson)),
    ("inspections", .array (m.inspections.map Inspection.toJson))]

/-- Reads a model. -/
def ofDocument? (node : δ) : Option Model := do
  match ← fields? ["name", "value_maps", "data_declarations", "inspections"] node with
  | [name, valueMaps, data, inspections] =>
    return {
      name := ← name.required text?
      valueMaps := ← valueMaps.required (dictOf? members? ValueMap.ofDocument?)
      data := ← data.required (listOf? DataDeclaration.ofDocument?)
      inspections := ← inspections.required (listOf? Inspection.ofDocument?) }
  | _ => none

end Model

end Crossmap.Mapping
