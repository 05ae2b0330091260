import Crossmap.Delimited.Text
import Crossmap.Number.Decimal
import Crossmap.Table.Row
import Crossmap.Text.Utf8

/-!
# Tables as delimited text

The first record of a table names the columns, and every further record is a row with as many
fields. An empty field is an absent cell, any other a text.
-/

namespace Crossmap.Delimited

/-- Why a text is not a table. -/
inductive TableError where
  /-- A record has not as many fields as the first one. -/
  | unequalLengths (record : Nat) (start : Position) (found expected : Nat)
  /-- A field is not UTF-8 from some byte on. -/
  | notUtf8 (record : Nat) (start : Position) (field offset : Nat)
  deriving DecidableEq, Inhabited

/-- The message of an error. -/
def TableError.message : TableError → String
  | .unequalLengths record start found expected =>
    "CSV error: record " ++ natText record ++ " (line: " ++ natText start.line ++ ", byte: "
      ++ natText start.byte ++ "): found record with " ++ natText found
      ++ " fields, but the previous record has " ++ natText expected ++ " fields"
  | .notUtf8 record start field offset =>
    "CSV parse error: record " ++ natText record ++ " (line " ++ natText start.line ++ ", field: "
      ++ natText field ++ ", byte: " ++ natText start.byte
      ++ "): invalid utf-8: invalid UTF-8 in field " ++ natText field ++ " near byte index "
      ++ natText offset

/-- The text of a field, and the number of the field for the error if it has none. -/
def fieldText (index : Nat) (start : Position) (f : List UInt8 × Nat) :
    Except TableError String :=
  (Text.Utf8.decode f.1).mapError fun offset => .notUtf8 index start f.2 offset

/-- The texts of the fields of a record. -/
def recordTexts (index : Nat) (r : RawRecord) : Except TableError (List String) :=
  r.fields.zipIdx.mapM (fieldText index r.start)

/-- The cell that a field means. -/
def fieldCell (field : String) : Cell := if field.isEmpty then .null else .string field

/-- The row of a record. Of fields in columns of one name the last one counts. -/
def rowOf (header : List String) (index : Nat) (r : RawRecord) : Except TableError Row := do
  if r.fields.length ≠ header.length then
    throw (.unequalLengths index r.start r.fields.length header.length)
  let texts ← recordTexts index r
  return Dict.ofList (header.zip (texts.map fieldCell))

/-- The rows of a table. -/
def rowsOf : List RawRecord → Except TableError (List Row)
  | [] => .ok []
  | first :: rest => do
    let header ← recordTexts 0 first
    (rest.zipIdx 1).mapM fun r => rowOf header r.2 r.1

/-- Reads a table. -/
def readTable (delimiter : UInt8) (content : List UInt8) : Except TableError (List Row) :=
  rowsOf (decode delimiter content)

/-- The record of a row under certain columns. -/
def rowRecord (columns : List String) (row : Row) : List (List UInt8) :=
  columns.map fun c => Text.Utf8.bytes (((row.get? c).bind cellText).getD "")

/-- Writes rows as a table with certain columns. -/
def writeTable (delimiter : UInt8) (columns : List String) (rows : List Row) : List UInt8 :=
  encode delimiter (columns.map Text.Utf8.bytes :: rows.map (rowRecord columns))

end Crossmap.Delimited
