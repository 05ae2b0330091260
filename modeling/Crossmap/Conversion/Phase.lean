import Crossmap.Document.Basic
import Crossmap.Json.Value

/-!
# The two phases of a conversion

A conversion reads all records and then writes all rows.
-/

namespace Crossmap

/-- A phase of a conversion. -/
inductive Phase where
  | read
  | write
  deriving DecidableEq, Inhabited

namespace Phase

/-- The name of a phase. -/
def text : Phase → String
  | .read => "READ"
  | .write => "WRITE"

/-- The phase of a name. -/
def ofText? (s : String) : Option Phase := [Phase.read, Phase.write].find? fun p => p.text = s

/-- Reads a phase from a document. -/
def ofDocument? {δ : Type} [Document δ] (node : δ) : Option Phase :=
  (Document.choice? node).bind ofText?

end Phase

end Crossmap
