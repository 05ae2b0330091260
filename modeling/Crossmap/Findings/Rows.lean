import Crossmap.Conversion.Run

/-!
# What is missing in source rows

Before a conversion the rows of the source can be read once more, to see whether they have the
columns that the conversion looks up. `missingColumns` lists the columns that some row lacks, every
message once and in the order in which it came up first.
-/

namespace Crossmap

open Mapping

/-- A column that a row lacks. -/
inductive RowFinding where
  | missingIdent (column object : String)
  | missingColumn (column object : String)
  deriving DecidableEq, Inhabited

/-- The message of a finding. -/
def RowFinding.message : RowFinding → String
  | .missingIdent column object => "Missing ident column " ++ column ++ " in source " ++ object
  | .missingColumn column object => "Missing column " ++ column ++ " in source " ++ object

/-- The columns that a row lacks. -/
def Row.findings (object : String) (identColumn : Option String) (columns : List String)
    (row : Row) : List RowFinding :=
  ((identColumn.toList.filter fun c => !row.hasColumn c).map (RowFinding.missingIdent · object))
    ++ ((columns.filter fun c => !row.hasColumn c).map (RowFinding.missingColumn · object))

/-- The columns that a data declaration looks up, besides its ident column. -/
def Mapping.DataDeclaration.columnsRead (d : DataDeclaration) : List String :=
  d.columns.map Column.sourceColumn

/-- The columns that an inspection looks up, besides its ident column. -/
def Mapping.Inspection.columnsRead (i : Inspection) : List String :=
  i.parentColumn.toList ++ i.structAttrColumn.toList ++ i.classColumn.toList
    ++ i.columns.map Column.sourceColumn

section

variable {ω γ : Type} [RecordSource ω]

/-- What the rows of a data declaration lack. -/
def dataRowFindings (d : DataDeclaration) : Run ω γ StorageError (List RowFinding) := do
  let rows ← Run.readRows d.object d.filter
  return rows.flatMap (Row.findings d.object d.identColumn d.columnsRead)

/-- What the rows of an inspection lack. -/
def inspectedRowFindings (i : Inspection) : Run ω γ StorageError (List RowFinding) := do
  let rows ← Run.readRows i.object .empty
  return rows.flatMap (Row.findings i.object i.identColumn i.columnsRead)

/-- The messages of what the source rows of a model lack. -/
def missingColumns (m : Model) : Run ω γ StorageError (List String) := do
  let ofData ← m.data.mapM dataRowFindings
  let ofInspections ← m.inspections.mapM inspectedRowFindings
  return ((ofData.flatten ++ ofInspections.flatten).map RowFinding.message).eraseDups

end

end Crossmap
