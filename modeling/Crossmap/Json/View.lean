import Crossmap.Document.Basic
import Crossmap.Json.Source

/-!
# JSON as a document format

A JSON node is accepted for what it is and for nothing else: no number is a text, and no text is a
truth value. A name is a code only when its digits stand in it as they are.
-/

namespace Crossmap.JsonText

/-- Members by the texts of their names, which all have to have one. -/
def named? (ms : List (Literal × JsonText)) : Option (List (String × JsonText)) :=
  ms.mapM fun m => m.1.text?.map (·, m.2)

/-- Members by the codes that are their names. -/
def numbered? (ms : List (Literal × JsonText)) : Option (List (Code × JsonText)) :=
  ms.mapM fun m => (m.1.plainChars?.bind Code.ofName?).map (·, m.2)

instance : Document JsonText where
  isNull
    | .null => true
    | _ => false
  text?
    | .string l => l.text?
    | _ => none
  truth?
    | .bool b => some b
    | _ => none
  list?
    | .array items => some items
    | _ => none
  fieldList?
    | .array items => some items
    | _ => none
  members?
    | .object ms => named? ms
    | _ => none
  coded?
    | .object ms => numbered? ms
    | _ => none

end Crossmap.JsonText
