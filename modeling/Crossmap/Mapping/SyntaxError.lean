import Crossmap.Mapping.Token
import Crossmap.Text.Split

/-!
# Syntax errors of mapping texts

A syntax error has a place and a reason. Where a token stands that cannot stand there, the reason
lists what could: `Expected` describes classes of tokens, and `Expected.accepts` says which tokens
belong to one.
-/

namespace Crossmap.Mapping

/-- A description of tokens that could stand at a place. -/
inductive Expected where
  | symbol (s : Symbol)
  | keyword (word : String)
  | name (role : String)
  | code
  | quoted
  | marker
  deriving DecidableEq, Inhabited

namespace Expected

/-- The wording of a description. -/
def label : Expected → String
  | .symbol s => s.text
  | .keyword word => word
  | .name role => role
  | .code => "integer code"
  | .quoted => "string literal"
  | .marker => "$marker"

/-- Whether a token fits a description. -/
def accepts : Expected → Token → Bool
  | .symbol s, t => t == .symbol s
  | .keyword word, t => t == .name word
  | .name _, .name _ => true
  | .code, .code _ => true
  | .quoted, .quoted _ => true
  | .marker, .marker _ => true
  | _, _ => false

end Expected

/-- Why a text is not a mapping text. -/
inductive Reason where
  | fault (f : Fault)
  /-- A token, or the end, stands where only other tokens can stand. -/
  | unexpected (found : Option Token) (expected : List Expected)
  | duplicateCode (code : Code) (map : String)
  | duplicateMap (name : String)
  /-- An inspection ends without naming its ident column. -/
  | identMissing (inspection : String)
  deriving DecidableEq, Inhabited

namespace Reason

/-- The wording of a token, or of the end of the text. -/
def describe : Option Token → String
  | some t => t.describe
  | none => "end of input"

/-- The wording of a reason. -/
def text : Reason → String
  | .fault f => f.text
  | .unexpected found _ => "unexpected " ++ describe found
  | .duplicateCode code map => "duplicate code " ++ code.text ++ " in VALUEMAP '" ++ map ++ "'"
  | .duplicateMap name => "duplicate VALUEMAP '" ++ name ++ "'"
  | .identMissing inspection => "INSPECTION '" ++ inspection ++ "' requires an IDENT clause"

/-- What could stand at the place of the error. -/
def expected : Reason → List Expected
  | .unexpected _ expected => expected
  | .identMissing _ => [.keyword "IDENT"]
  | .fault _ => []
  | .duplicateCode _ _ => []
  | .duplicateMap _ => []

end Reason

/-- An error in a mapping text. -/
structure SyntaxError where
  /-- The name under which the text was given. -/
  source : String
  location : Location
  reason : Reason
  deriving DecidableEq, Inhabited

namespace SyntaxError

/-- The wordings of what could stand at the place of the error. -/
def expected (e : SyntaxError) : List String := e.reason.expected.map Expected.label

/-- The message of an error. -/
def message (e : SyntaxError) : String :=
  let place := natText e.location.line ++ ":" ++ natText e.location.column
  let hint := match e.expected with
    | [] => ""
    | labels => " (expected one of: " ++ Text.joinWith ", " labels ++ ")"
  e.source ++ ":" ++ place ++ ": " ++ e.reason.text ++ hint

end SyntaxError

end Crossmap.Mapping
