import Crossmap.Dict
import Crossmap.Number.Decimal

/-!
# Documents

A document format gives each of its nodes some views: as a text, as a truth value, as a list, as
named members, as nothing at all. `Document` is the class of node types with these views; what a
node is accepted for is the format's own decision. The decoders of this module read values out of
any such format.

A record is written as named members or, where the format allows it, as the list of its fields in
their declared order. `fields?` finds the fields in either form: `Field.given` holds a node,
`Field.absent` says that a member is not named, and `Field.cut` that the list ends before the
field. Members that no field is named for are passed over, a member that is named twice is refused,
and so is a list that is too long.
-/

namespace Crossmap

/-- Members by the codes that are their names. -/
def Document.numbered? {δ : Type} (ms : List (String × δ)) : Option (List (Code × δ)) :=
  ms.mapM fun m => (Code.ofName? m.1.toList).map (·, m.2)

/-- The views of a node of a document. -/
class Document (δ : Type) where
  /-- Whether the node stands for the absence of a value. -/
  isNull : δ → Bool
  text? : δ → Option String
  truth? : δ → Option Bool
  list? : δ → Option (List δ)
  /-- The node as the list of a record's fields. -/
  fieldList? : δ → Option (List δ)
  /-- The node as named members, repetitions included. -/
  members? : δ → Option (List (String × δ))
  /-- The node as members that are named by codes, repetitions included. -/
  coded? : δ → Option (List (Code × δ))

/-- What a document says about one field of a record. -/
inductive Field (δ : Type) where
  | given (node : δ)
  | absent
  /-- The list of fields ends before this one. -/
  | cut

namespace Document

variable {δ : Type} {α : Type} [Document δ]

/-- The nodes of the members that have a name. -/
def named (name : String) (ms : List (String × δ)) : List δ :=
  (ms.filter fun m => m.1 = name).map Prod.snd

/-- The field of a name among the members; `none` when the name occurs twice. -/
def member? (ms : List (String × δ)) (name : String) : Option (Field δ) :=
  match named name ms with
  | [] => some .absent
  | [node] => some (.given node)
  | _ => none

/-- The fields of a record that is written as a list; `none` when the list is too long. -/
def positional? : List String → List δ → Option (List (Field δ))
  | [], [] => some []
  | [], _ :: _ => none
  | _ :: names, [] => (positional? names []).map (.cut :: ·)
  | _ :: names, node :: nodes => (positional? names nodes).map (.given node :: ·)

/-- The fields of a record, in the order of their names. -/
def fields? (names : List String) (node : δ) : Option (List (Field δ)) :=
  match members? node with
  | some ms => names.mapM (member? ms)
  | none => (fieldList? node).bind (positional? names)

/-- Decodes every item of a list. -/
def listOf? (item? : δ → Option α) (node : δ) : Option (List α) :=
  (list? node).bind (·.mapM item?)

/-- Decodes a list of texts. -/
def texts? (node : δ) : Option (List String) := listOf? text? node

/-- The name of a choice: a text, or the only member of a node that holds nothing else. -/
def choice? (node : δ) : Option String :=
  (text? node).or <|
    match members? node with
    | some [(name, content)] => if isNull content then some name else none
    | _ => none

/-- Decodes a map from one of the views as members: a repeated key keeps its first place and takes
its last value. -/
def dictOf? {κ : Type} [DecidableEq κ] (entries? : δ → Option (List (κ × δ)))
    (value? : δ → Option α) (node : δ) : Option (Dict κ α) := do
  let es ← (← entries? node).mapM fun e => (value? e.2).map (e.1, ·)
  return Dict.ofList es

end Document

namespace Field

variable {δ : Type} {α : Type} [Document δ]

/-- A field that has to be given. -/
def required (value? : δ → Option α) : Field δ → Option α
  | .given node => value? node
  | .absent => none
  | .cut => none

/-- A field that takes a value of its own when it is not given. -/
def orElse (value : α) (value? : δ → Option α) : Field δ → Option α
  | .given node => value? node
  | .absent => some value
  | .cut => some value

/-- A value, or none where the node says so. -/
def nullable (value? : δ → Option α) (node : δ) : Option (Option α) :=
  if Document.isNull node then some none else (value? node).map some

/-- A field that may be left out by name, but not at the end of a list. -/
def optional (value? : δ → Option α) : Field δ → Option (Option α)
  | .given node => nullable value? node
  | .absent => some none
  | .cut => none

/-- A field that may be left out in either form. -/
def omittable (value? : δ → Option α) : Field δ → Option (Option α) :=
  orElse none (nullable value?)

end Field

end Crossmap
