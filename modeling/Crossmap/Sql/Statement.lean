import Crossmap.Number.Decimal
import Crossmap.Table.Row

/-!
# SQL statements

The two statements by which rows are read and written. Literals never stand in a statement, but in
its parameters; names stand in it as they are when they are plain identifiers, and in quotes
otherwise. Databases differ in the quote and in the placeholders of parameters, which is what a
`Dialect` says.
-/

namespace Crossmap.Sql

/-- What differs between databases. -/
structure Dialect where
  name : String
  /-- The placeholder of a parameter; the first one has the number one. -/
  placeholder : Nat → String
  /-- The character around names that are no plain identifiers. -/
  quoteChar : Char := '"'

namespace Dialect

/-- Standard SQL. -/
def generic : Dialect where
  name := "generic"
  placeholder _ := "?"

/-- PostgreSQL. -/
def postgres : Dialect where
  name := "postgres"
  placeholder n := "$" ++ natText n

/-- DuckDB. -/
def duckdb : Dialect where
  name := "duckdb"
  placeholder n := "?" ++ natText n

end Dialect

/-- Whether a plain identifier can begin with a character. -/
def isIdentifierStart (c : Char) : Bool := c.isAlpha || c = '_'

/-- Whether a plain identifier can go on with a character. -/
def isIdentifierPart (c : Char) : Bool := c.isAlphanum || c = '_'

/-- Whether a text is a plain identifier. -/
def isPlain : List Char → Bool
  | [] => false
  | c :: cs => isIdentifierStart c && cs.all isIdentifierPart

namespace Dialect

/-- The characters of a name between quotes, a quote among them doubled. -/
def quoted (d : Dialect) (cs : List Char) : List Char :=
  d.quoteChar :: cs.flatMap (fun c => if c = d.quoteChar then [c, c] else [c]) ++ [d.quoteChar]

/-- One segment of a name as it stands in a statement. -/
def quoteSegment (d : Dialect) (segment : String) : String :=
  if isPlain segment.toList then segment else String.ofList (d.quoted segment.toList)

/-- A dotted name as it stands in a statement. -/
def quoteName (d : Dialect) (name : String) : String :=
  Text.joinWith "." ((Text.segments name).map d.quoteSegment)

/-- A condition on each column, numbered from a first parameter on. -/
def conditions (d : Dialect) (first : Nat) : List String → List String
  | [] => []
  | column :: rest =>
    (d.quoteName column ++ " = " ++ d.placeholder first) :: d.conditions (first + 1) rest

/-- The part of a statement that asks for literals in columns. -/
def whereClause (d : Dialect) (columns : List String) : String :=
  if columns.isEmpty then "" else " WHERE " ++ Text.joinWith " AND " (d.conditions 1 columns)

/-- The statement that reads the rows of an object that satisfy a filter. -/
def selectText (d : Dialect) (object : String) (filter : Filter) : String :=
  "SELECT * FROM " ++ d.quoteName object ++ d.whereClause filter.keys

/-- The statement that writes a row with certain columns to an object. -/
def insertText (d : Dialect) (object : String) (columns : List String) : String :=
  let names := Text.joinWith ", " (columns.map d.quoteName)
  let marks := Text.joinWith ", " ((List.range columns.length).map fun i => d.placeholder (i + 1))
  "INSERT INTO " ++ d.quoteName object ++ " (" ++ names ++ ") VALUES (" ++ marks ++ ")"

end Dialect

end Crossmap.Sql
