import Crossmap.Document.Basic

/-!
# YAML documents

The nodes of a YAML document. Every scalar is accepted as a text. Only a scalar without quotes can
stand for a truth value or for nothing at all, and a value that is left out is also an empty list
and an empty map; a word for nothing is neither.
-/

namespace Crossmap

/-- A node of a YAML document. -/
inductive Yaml where
  /-- A scalar, and whether it stands without quotes. -/
  | scalar (isPlain : Bool) (text : String)
  | list (items : List Yaml)
  | map (members : List (Yaml × Yaml))
  deriving Inhabited

namespace Yaml

/-- The node of a value that is left out. -/
def missing : Yaml := .scalar true ""

/-- Whether a plain scalar stands for nothing. -/
def isNullWord (s : String) : Bool := s ∈ ["", "~", "null", "Null", "NULL"]

/-- The truth value of a plain scalar. -/
def truthWord? (s : String) : Option Bool :=
  if s ∈ ["true", "True", "TRUE"] then some true
  else if s ∈ ["false", "False", "FALSE"] then some false
  else none

/-- The text of a scalar. -/
def text? : Yaml → Option String
  | .scalar _ s => some s
  | _ => none

/-- The items of a sequence. -/
def list? : Yaml → Option (List Yaml)
  | .list items => some items
  | .scalar isPlain s => if isPlain && s.isEmpty then some [] else none
  | .map _ => none

/-- The members of a mapping whose keys are scalars. -/
def members? : Yaml → Option (List (String × Yaml))
  | .map ms => ms.mapM fun m => m.1.text?.map (·, m.2)
  | .scalar isPlain s => if isPlain && s.isEmpty then some [] else none
  | .list _ => none

instance : Document Yaml where
  isNull
    | .scalar true s => isNullWord s
    | _ => false
  text? := text?
  truth?
    | .scalar true s => truthWord? s
    | _ => none
  list? := list?
  fieldList? _ := none
  members? := members?
  coded? node := (members? node).bind Document.numbered?

end Yaml

end Crossmap
