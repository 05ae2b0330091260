import Crossmap.Text.Ranges

/-!
# Places in a YAML text

What a character means in YAML depends on its column and on the line it stands in, and a key is
found only within a certain number of bytes. `Place` counts the three, and a `Cursor` is what is
left of a text together with the place where it begins. Texts come here with every line break of
ASCII written as a line feed; two further characters end a line as well, and stay what they are.
-/

namespace Crossmap.Yaml

/-- The white space within a line. -/
def isGap (c : Char) : Bool := c = ' ' || c = '\t'

/-- The characters that end a line. -/
def isBreak (c : Char) : Bool := c = '\n' || c.toNat = 0x2028 || c.toNat = 0x2029

/-- White space, line breaks included. -/
def isSpace (c : Char) : Bool := isGap c || isBreak c

/-- Whether nothing but white space stands at the front. -/
def atSpace : List Char → Bool
  | [] => true
  | c :: _ => isSpace c

/-- A place in a text. -/
structure Place where
  /-- The number of lines before its own. -/
  line : Nat
  /-- The number of characters before it in its line. -/
  column : Nat
  /-- The number of bytes before it in its line. -/
  bytes : Nat
  deriving DecidableEq, Inhabited

namespace Place

/-- Where a text begins. -/
def start : Place := ⟨0, 0, 0⟩

/-- The place behind a character. -/
def after (p : Place) (c : Char) : Place :=
  if isBreak c then ⟨p.line + 1, 0, 0⟩ else ⟨p.line, p.column + 1, p.bytes + c.utf8Size⟩

/-- The place behind a row of characters. -/
def afterAll (p : Place) (cs : List Char) : Place := cs.foldl after p

end Place

/-- What is left of a text. -/
structure Cursor where
  place : Place
  rest : List Char
  deriving Inhabited

/-- Whether three times the same character stands at the front of a line, with white space behind
it. Dashes begin a document in this way, and dots end one. -/
def atMark (mark : Char) (p : Place) (cs : List Char) : Bool :=
  p.column = 0 && [mark, mark, mark].isPrefixOf cs && atSpace (cs.drop 3)

/-- Whether the beginning or the end of a document is marked at the front. -/
def atDocumentMark (p : Place) (cs : List Char) : Bool := atMark '-' p cs || atMark '.' p cs

/-! ## Texts -/

/-- The ranges of the characters that a document can hold. -/
def printableRanges : List (Nat × Nat) :=
  [(0x9, 0xA), (0xD, 0xD), (0x20, 0x7E), (0x85, 0x85), (0xA0, 0xD7FF), (0xE000, 0xFFFD),
    (0x10000, 0x10FFFF)]

/-- Whether a document can hold a character. -/
def isPrintable (c : Char) : Bool := Text.inRanges printableRanges c

/-- The text with every control character that breaks lines written as a line feed. -/
def unifyBreaks : List Char → List Char
  | '\r' :: '\n' :: cs => '\n' :: unifyBreaks cs
  | c :: cs => (if c = '\r' || c.toNat = 0x85 then '\n' else c) :: unifyBreaks cs
  | [] => []

/-- The characters of a text that a document can be read from. -/
def source? (s : String) : Option (List Char) :=
  if s.toList.all isPrintable then some (unifyBreaks s.toList) else none

end Crossmap.Yaml
