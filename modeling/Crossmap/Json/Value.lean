import Crossmap.Number.Shortest
import Crossmap.Text.Split

/-!
# JSON values

The values that a cell can hold and that documents are written from. The members of an object stand
in the order in which they are written.
-/

namespace Crossmap

/-- A number: whole, or in floating point. -/
inductive Number where
  | whole (n : Int)
  | binary (x : Binary64)
  deriving DecidableEq, Inhabited

/-- The number in decimal. -/
def Number.text : Number → String
  | .whole n => intText n
  | .binary x => x.text

/-- A JSON value. -/
inductive Json where
  | null
  | bool (b : Bool)
  | number (n : Number)
  | string (s : String)
  | array (items : List Json)
  | object (members : List (String × Json))
  deriving Inhabited

namespace Json

/-- A whole number. -/
def whole (n : Int) : Json := .number (.whole n)

/-- A string, or null where there is none. -/
def ofText? : Option String → Json
  | none => .null
  | some s => .string s

/-- An array of strings. -/
def ofTexts (ss : List String) : Json := .array (ss.map .string)

end Json

end Crossmap
