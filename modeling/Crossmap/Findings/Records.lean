import Crossmap.Record.Basic
import Crossmap.Schema.Basic
import Crossmap.Text.Blank

/-!
# What is missing in records

After a conversion its records can be held against the schema: their classes have to be declared,
and their mandatory attributes have to have values that are not blank. A value under a longer path
counts for the attribute that the path ends in, unless there is one under the attribute itself.
-/

namespace Crossmap

/-- A record that does not fit the schema. -/
inductive RecordFinding where
  | unknownClass (className : String)
  /-- A mandatory attribute has no value. -/
  | emptyMandatory (className attributeName ident : String)
  deriving DecidableEq, Inhabited

/-- The message of a finding. -/
def RecordFinding.message : RecordFinding → String
  | .unknownClass className => "Result contains unknown class " ++ className
  | .emptyMandatory className attributeName ident =>
    "Mandatory attribute " ++ className ++ "." ++ attributeName ++ " is empty for ident " ++ ident

/-- Whether a path is longer than its last segment, and that segment is an attribute's name. -/
def endsInAttribute (attributeName path : String) : Bool :=
  Text.hasChar '.' path && Text.lastSegment path = attributeName

/-- The value of an attribute of a record. -/
def Record.attributeValue? (r : Record) (attributeName : String) : Option String :=
  (r.values.get? attributeName).or
    ((r.values.entries.find? fun e => endsInAttribute attributeName e.1).map Prod.snd)

/-- Whether an attribute of a record has a value that is not blank. -/
def Record.isFilled (r : Record) (attributeName : String) : Bool :=
  (r.attributeValue? attributeName).any fun v => !Text.isBlankText v

/-- What does not fit in a record. -/
def Record.findings (s : Schema) (r : Record) : List RecordFinding :=
  match s.class? r.className with
  | none => [.unknownClass r.className]
  | some c =>
    (c.mandatoryAttributes.filter fun a => !r.isFilled a.name).map fun a =>
      .emptyMandatory r.className a.name r.ident

/-- The messages of what does not fit in records. -/
def Schema.checkRecords (s : Schema) (records : List Record) : List String :=
  (records.flatMap (Record.findings s)).map RecordFinding.message

end Crossmap
