import Crossmap.Dict
import Crossmap.Json.Printer

/-!
# Rows

A row holds the cells of one entry of an object under its column names. A column is looked up by
its exact name first; without one, by the first name that differs only in the case of ASCII
letters. A filter asks for the text of some cells.
-/

namespace Crossmap

/-- A value of a cell; null where the cell is absent. -/
abbrev Cell := Json

/-- The text of a cell: what a string says, and the JSON text of anything else. A null has none. -/
def cellText : Cell → Option String
  | .null => none
  | .string s => some s
  | cell => some cell.compact

/-- The cells of a row under the names of their columns. -/
abbrev Row := Dict String Cell

/-- The literals that the columns of a row have to equal. -/
abbrev Filter := Dict String String

namespace Row

/-- The first cell whose column differs from a name at most in case. -/
def cellIgnoringCase? (row : Row) (column : String) : Option Cell :=
  (row.entries.find? fun e => Text.sameIgnoringCase e.1 column).map Prod.snd

/-- The cell of a column. -/
def cell? (row : Row) (column : String) : Option Cell :=
  (row.get? column).or (row.cellIgnoringCase? column)

/-- Whether there is a column of a name. -/
def hasColumn (row : Row) (column : String) : Bool :=
  row.contains column || row.keys.any fun name => Text.sameIgnoringCase name column

/-- The text in a column; none where the column or its value is absent. -/
def text? (row : Row) (column : String) : Option String := (row.cell? column).bind cellText

/-- Whether every literal of a filter is the text in its column. -/
def satisfies (row : Row) (filter : Filter) : Bool :=
  filter.entries.all fun e => row.text? e.1 = some e.2

end Row

end Crossmap
