import Crossmap.Document.Basic
import Crossmap.Json.Reader
import Crossmap.Json.View
import Crossmap.Schema.Basic
import Crossmap.Yaml.Reader

/-!
# Schemas as documents

How schemas are written as JSON and read from JSON and YAML. Every member may be missing. What
extends nothing, refers to nothing or has no choices is written without the member.
-/

namespace Crossmap

open Document

variable {δ : Type} [Document δ]

namespace AttributeDeclaration

/-- The document of an attribute. -/
def toJson (a : AttributeDeclaration) : Json :=
  .object ([("name", .string a.name), ("typeKind", .string a.kind),
      ("mandatory", .bool a.isMandatory)]
    ++ (a.reference.map fun r => ("referenceTarget", Json.string r)).toList
    ++ (if a.choices.isEmpty then [] else [("enumValues", .ofTexts a.choices)]))

/-- Reads an attribute. -/
def ofDocument? (node : δ) : Option AttributeDeclaration := do
  match ← fields? ["name", "typeKind", "mandatory", "referenceTarget", "enumValues"] node with
  | [name, kind, isMandatory, reference, choices] =>
    return {
      name := ← name.orElse "" text?
      kind := ← kind.orElse "" text?
      isMandatory := ← isMandatory.orElse false truth?
      reference := ← reference.omittable text?
      choices := ← choices.orElse [] texts? }
  | _ => none

end AttributeDeclaration

namespace ClassDeclaration

/-- The document of a class. -/
def toJson (c : ClassDeclaration) : Json :=
  .object ([("name", .string c.name), ("structure", .bool c.isStructure)]
    ++ (c.superclass.map fun s => ("superClass", Json.string s)).toList
    ++ [("attributes", .object (c.attributes.entries.map fun e => (e.1, e.2.toJson)))])

/-- Reads a class. -/
def ofDocument? (node : δ) : Option ClassDeclaration := do
  match ← fields? ["name", "structure", "superClass", "attributes"] node with
  | [name, isStructure, superclass, attributes] =>
    return {
      name := ← name.orElse "" text?
      isStructure := ← isStructure.orElse false truth?
      superclass := ← superclass.omittable text?
      attributes := ← attributes.orElse .empty (dictOf? members? AttributeDeclaration.ofDocument?) }
  | _ => none

end ClassDeclaration

namespace Schema

/-- The document of a schema. -/
def toJson (s : Schema) : Json :=
  .object [("classes", .object (s.classes.entries.map fun e => (e.1, e.2.toJson)))]

/-- Reads a schema, with the names as they are given. -/
def ofDocument? (node : δ) : Option Schema := do
  match ← fields? ["classes"] node with
  | [classes] =>
    return { classes := ← classes.orElse .empty (dictOf? members? ClassDeclaration.ofDocument?) }
  | _ => none

/-- Reads a schema from a JSON text; its names are its keys. -/
def ofJsonText? (s : String) : Option Schema :=
  ((JsonText.read? s).bind ofDocument?).map nameByKeys

/-- Reads a schema from a YAML text; its names are its keys. -/
def ofYamlText? (s : String) : Option Schema := ((Yaml.read? s).bind ofDocument?).map nameByKeys

end Schema

end Crossmap
