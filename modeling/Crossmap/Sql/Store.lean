import Crossmap.Sql.Statement
import Crossmap.Table.Access

/-!
# Rows in a database

A `Sql.Store` reads and writes rows through a connection. A batch is written with one statement that
names the columns of its first row, and one set of parameters for each row; an empty batch needs no
statement. `Sql.Recorder` is a connection that only records what it is asked for.
-/

namespace Crossmap.Sql

/-- Connections that carry out statements. -/
class Connection (κ : Type) where
  /-- Carries out a statement that gives rows. -/
  query : String → List String → κ → Except StorageError (List Row) × κ
  /-- Carries out a statement once for each set of parameters. -/
  executeBatch : String → List (List Cell) → κ → Except StorageError Unit × κ

/-- A connection to a database with a dialect. -/
structure Store (κ : Type) where
  connection : κ
  dialect : Dialect

/-- The cells of a row under certain columns; a column that it lacks counts as null. -/
def parameters (columns : List String) (row : Row) : List Cell :=
  columns.map fun c => (row.get? c).getD .null

namespace Store

variable {κ : Type} [Connection κ]

instance : RecordSource (Store κ) where
  read object filter s :=
    let r := Connection.query (s.dialect.selectText object filter) filter.values s.connection
    (r.1, { s with connection := r.2 })

instance : RecordTarget (Store κ) where
  write object rows s :=
    match rows with
    | [] => (.ok (), s)
    | first :: _ =>
      let r := Connection.executeBatch (s.dialect.insertText object first.keys)
        (rows.map (parameters first.keys)) s.connection
      (r.1, { s with connection := r.2 })

end Store

/-- A statement that a connection was asked to carry out. -/
inductive Request where
  | query (text : String) (literals : List String)
  /-- A statement and its sets of parameters. -/
  | batch (text : String) (sets : List (List Cell))
  deriving Inhabited

/-- A connection that records requests and carries none of them out. -/
structure Recorder where
  rows : List Row
  /-- The message with which every request fails, if there is one. -/
  failure : Option String
  requests : List Request

namespace Recorder

/-- A connection without requests. -/
def fresh : Recorder := ⟨[], none, []⟩

instance : Inhabited Recorder := ⟨fresh⟩

/-- The connection after a request, and how the request ends. -/
def receive {α : Type} (r : Recorder) (request : Request) (value : α) :
    Except StorageError α × Recorder :=
  (match r.failure with
    | some message => .error (.databaseError message)
    | none => .ok value,
    { r with requests := r.requests ++ [request] })

instance : Connection Recorder where
  query text literals r := r.receive (.query text literals) r.rows
  executeBatch text sets r := r.receive (.batch text sets) ()

end Recorder

end Crossmap.Sql
