import Crossmap.Number.Decimal

/-!
# Tokens of mapping texts

The words of a mapping text: names, markers, codes, quoted texts and punctuation, each with the
wording by which messages speak of it, and the faults that keep a text from being cut into words.
Keywords are names; only the grammar tells them apart.
-/

namespace Crossmap.Mapping

/-- A place in a text: line and column, both counted from one. -/
structure Location where
  /-- One more than the line breaks before the place. -/
  line : Nat
  /-- One more than the characters between the last line break and the place. -/
  column : Nat
  deriving DecidableEq, Inhabited

namespace Location

/-- The place of the first character. -/
def start : Location := ⟨1, 1⟩

/-- The place after a character. -/
def next (l : Location) (c : Char) : Location :=
  if c = '\n' then ⟨l.line + 1, 1⟩ else ⟨l.line, l.column + 1⟩

/-- The place after some characters. -/
def past (l : Location) (cs : List Char) : Location := cs.foldl next l

end Location

/-- A token that is always spelled the same. -/
inductive Symbol where
  | leftBrace
  | rightBrace
  | leftParen
  | rightParen
  | semicolon
  | comma
  | dot
  | tilde
  | equals
  | arrow
  | leftArrow
  | bothArrow
  | doubleDash
  deriving DecidableEq, Inhabited

/-- The spelling of a symbol. -/
def Symbol.text : Symbol → String
  | .leftBrace => "\x7b"
  | .rightBrace => "\x7d"
  | .leftParen => "("
  | .rightParen => ")"
  | .semicolon => ";"
  | .comma => ","
  | .dot => "."
  | .tilde => "~"
  | .equals => "="
  | .arrow => "->"
  | .leftArrow => "<-"
  | .bothArrow => "<->"
  | .doubleDash => "--"

/-- A token. Keywords are names that the grammar recognises by their position. -/
inductive Token where
  | name (s : String)
  | marker (s : String)
  | code (c : Code)
  | quoted (s : String)
  | symbol (s : Symbol)
  deriving DecidableEq, Inhabited

/-- The target path that a marker stands for. -/
def markerPath (s : String) : String := "$" ++ s

/-- The token as messages speak of it. -/
def Token.describe : Token → String
  | .name s => "identifier '" ++ s ++ "'"
  | .marker s => "marker '" ++ markerPath s ++ "'"
  | .code c => "integer " ++ c.text
  | .quoted s => "string \"" ++ s ++ "\""
  | .symbol s => "'" ++ s.text ++ "'"

/-- Why no lexeme can be read at some place. -/
inductive Fault where
  /-- No lexeme begins with the character. -/
  | strayChar (c : Char)
  | bareDollar
  /-- A backslash in quotes stands before a character that it does not escape. -/
  | badEscape (c : Char)
  /-- A text in quotes is not closed on its line. -/
  | openQuote
  | bareLess
  | openComment
  | codeOutOfRange (negative : Bool) (digits : List Char)
  deriving DecidableEq, Inhabited

/-- The wording of a fault. -/
def Fault.text : Fault → String
  | .strayChar c => "unexpected character '" ++ c.toString ++ "'"
  | .bareDollar => "expected a name after '$'"
  | .badEscape c => "invalid escape '\\" ++ c.toString ++ "'"
  | .openQuote => "unterminated string"
  | .bareLess => "expected '<-' or '<->'"
  | .openComment => "unterminated comment"
  | .codeOutOfRange false digits =>
    "invalid integer '" ++ String.ofList digits ++ "': number too large to fit in target type"
  | .codeOutOfRange true digits =>
    "invalid integer '-" ++ String.ofList digits ++ "': number too small to fit in target type"

/-- Whether a name can begin with a character. -/
def isNameStart (c : Char) : Bool := c.isAlpha || c = '_'

/-- Whether a name can go on with a character. -/
def isNamePart (c : Char) : Bool := c.isAlphanum || c = '_'

/-- Whether a text is a name. -/
def isName : List Char → Bool
  | [] => false
  | c :: cs => isNameStart c && cs.all isNamePart

end Crossmap.Mapping
