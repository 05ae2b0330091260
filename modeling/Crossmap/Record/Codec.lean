import Crossmap.Document.Basic
import Crossmap.Json.Printer
import Crossmap.Record.Basic

/-!
# Records as documents

How records are written as JSON and read from a document. A parent and a structural role that are
absent are left out.
-/

namespace Crossmap.Record

open Document

variable {δ : Type} [Document δ]

/-- The document of a record. -/
def toJson (r : Record) : Json :=
  .object ([("className", .string r.className), ("ident", .string r.ident)]
    ++ (r.parent.map fun p => ("parent", Json.string p)).toList
    ++ (r.structAttr.map fun a => ("structAttr", Json.string a)).toList
    ++ [("values", .object (r.values.entries.map fun e => (e.1, .string e.2)))])

/-- Reads a record. -/
def ofDocument? (node : δ) : Option Record := do
  match ← fields? ["className", "ident", "parent", "structAttr", "values"] node with
  | [className, ident, parent, structAttr, values] =>
    return {
      className := ← className.required text?
      ident := ← ident.required text?
      parent := ← parent.omittable text?
      structAttr := ← structAttr.omittable text?
      values := ← values.orElse .empty (dictOf? members? text?) }
  | _ => none

end Crossmap.Record
