import Crossmap.Conversion.Run
import Crossmap.Record.Basic

/-!
# Conversions

`readRecords` makes records of the rows of a source, declaration by declaration and row by row.
`writeRecords` makes rows of the records, and hands every data declaration of the target model the
rows of its class in one batch, which can be empty. `convert` is the one after the other; the first
failure ends it.
-/

namespace Crossmap

open Mapping

variable {ω γ : Type}

/-! ## Reading -/

/-- The ident of a row: the text in its ident column, or where no column is declared a new one. -/
def identOf [IdentSource γ] (row : Row) (identColumn : Option String) (object : String) :
    Run ω γ ConversionError String :=
  match identColumn with
  | none => Run.nextIdent
  | some column =>
    match row.text? column with
    | some ident => pure ident
    | none => throw (.resolution (.missingIdent object column))

/-- The text in a column that may not be declared. -/
def textIn? (row : Row) (column : Option String) : Option String := column.bind row.text?

/-- Puts the value of a column into a record. A value that leads to nothing leaves it as it is. -/
def readColumn (m : Model) (row : Row) (detail : String) (record : Record) (c : Column) :
    Run ω γ ConversionError Record := do
  let value ← Run.resolved (m.forward c.valueMap (row.text? c.sourceColumn))
  Run.report ⟨.read, record.className, record.ident, c.sourceColumn, c.targetPath, value, detail⟩
  return match value with
    | some v => record.setValue c.targetPath v
    | none => record

/-- Puts the values of columns into a record, one after another. -/
def readColumns (m : Model) (row : Row) (detail : String) (columns : List Column)
    (record : Record) : Run ω γ ConversionError Record :=
  columns.foldlM (readColumn m row detail) record

/-- The record of a row of a data declaration. -/
def readDataRow [IdentSource γ] (m : Model) (d : DataDeclaration) (row : Row) :
    Run ω γ ConversionError Record := do
  let ident ← identOf row d.identColumn d.object
  readColumns m row ("source=" ++ d.object) d.columns (.bare d.className ident)

/-- The records of a data declaration. -/
def readData [RecordSource ω] [IdentSource γ] (m : Model) (d : DataDeclaration) :
    Run ω γ ConversionError (List Record) := do
  let rows ← (Run.readRows d.object d.filter).mapError .storage
  rows.mapM (readDataRow m d)

/-- The record of a row of an inspection. -/
def inspectRow [IdentSource γ] (m : Model) (i : Inspection) (row : Row) :
    Run ω γ ConversionError Record := do
  let ident ← identOf row i.identColumn i.object
  let structAttr ← Run.resolved (m.forward i.structAttrMap (textIn? row i.structAttrColumn))
  let chosen ← Run.resolved (m.forward i.classMap (textIn? row i.classColumn))
  let record : Record :=
    { Record.bare (chosen.getD i.className) ident with
      parent := textIn? row i.parentColumn
      structAttr := structAttr }
  readColumns m row ("inspection=" ++ i.object) i.columns record

/-- The records of an inspection. -/
def inspect [RecordSource ω] [IdentSource γ] (m : Model) (i : Inspection) :
    Run ω γ ConversionError (List Record) := do
  let rows ← (Run.readRows i.object .empty).mapError .storage
  rows.mapM (inspectRow m i)

/-- The records of a model: of its data declarations in order, then of its inspections. -/
def readRecords [RecordSource ω] [IdentSource γ] (m : Model) :
    Run ω γ ConversionError (List Record) := do
  let ofData ← m.data.mapM (readData m)
  let ofInspections ← m.inspections.mapM (inspect m)
  return ofData.flatten ++ ofInspections.flatten

/-! ## Writing -/

/-- Puts the cell of a column into a row. -/
def writeColumn (m : Model) (record : Record) (detail : String) (row : Row) (c : Column) :
    Run ω γ ConversionError Row := do
  let cell ← Run.resolved (m.backward c.valueMap (record.field? c.targetPath))
  Run.report
    ⟨.write, record.className, record.ident, c.targetPath, c.sourceColumn, cellText cell, detail⟩
  return row.insert c.sourceColumn cell

/-- The row before its columns are written: the ident, if there is a column for it. -/
def identRow (d : DataDeclaration) (record : Record) : Row :=
  match d.identColumn with
  | some column => Dict.empty.insert column (.string record.ident)
  | none => .empty

/-- The row of a record in a data declaration. -/
def writeRow (m : Model) (d : DataDeclaration) (record : Record) : Run ω γ ConversionError Row :=
  d.columns.foldlM (writeColumn m record ("target=" ++ d.object)) (identRow d record)

/-- The records that a data declaration writes. -/
def recordsFor (d : DataDeclaration) (records : List Record) : List Record :=
  records.filter fun r => r.className = d.className

/-- Hands a data declaration its rows, and adds their number to the count of its object. -/
def writeData [RecordTarget ω] (m : Model) (records : List Record) (counts : Dict String Nat)
    (d : DataDeclaration) : Run ω γ ConversionError (Dict String Nat) := do
  let rows ← (recordsFor d records).mapM (writeRow m d)
  (Run.writeRows d.object rows).mapError .storage
  return counts.update d.object fun n => n.getD 0 + rows.length

/-- Writes records through every data declaration of a model in order, and counts the rows that
every object was handed. -/
def writeRecords [RecordTarget ω] (m : Model) (records : List Record) :
    Run ω γ ConversionError (Dict String Nat) :=
  m.data.foldlM (writeData m records) .empty

/-! ## The whole -/

/-- What a conversion brings about. -/
structure Outcome where
  /-- The records in the order in which they were read. -/
  records : List Record
  /-- The trace; empty unless one was wanted. -/
  trace : List TraceEvent
  /-- The number of rows that every object was handed. -/
  rowsWritten : Dict String Nat
  deriving DecidableEq, Inhabited

/-- The number of rows of all objects. -/
def Outcome.rowTotal (o : Outcome) : Nat := o.rowsWritten.values.foldl (· + ·) 0

/-- Reads the records of the source model and writes them through the target model. -/
def convert [RecordSource ω] [RecordTarget ω] [IdentSource γ] (source target : Model)
    (tracing : Bool) : Run ω γ ConversionError Outcome := do
  Run.startTrace tracing
  let records ← readRecords source
  let rowsWritten ← writeRecords target records
  return { records := records, trace := ← Run.events, rowsWritten := rowsWritten }

end Crossmap
