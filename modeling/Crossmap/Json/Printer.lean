import Crossmap.Json.Value

/-!
# JSON text

`Json.compact` writes a value without any space, `Json.pretty` with one member or item on a line
and two spaces for every level. In strings the quote, the backslash and the control characters
below U+0020 are escaped and nothing else.
-/

namespace Crossmap.Json

/-- A digit of the base sixteen, in small letters. -/
def hexDigit (n : Nat) : Char := Nat.digitChar (n % 16)

/-- How one character is written inside a string. -/
def escapeChar (c : Char) : List Char :=
  if c = '"' then ['\\', '"']
  else if c = '\\' then ['\\', '\\']
  else if c = '\x08' then ['\\', 'b']
  else if c = '\t' then ['\\', 't']
  else if c = '\n' then ['\\', 'n']
  else if c = '\x0c' then ['\\', 'f']
  else if c = '\r' then ['\\', 'r']
  else if c.toNat < 0x20 then
    ['\\', 'u', '0', '0', hexDigit (c.toNat / 16), hexDigit c.toNat]
  else [c]

/-- A string in quotes. -/
def quote (s : String) : List Char := '"' :: s.toList.flatMap escapeChar ++ ['"']

/-- The text of a value that holds no other value. -/
def boolChars (b : Bool) : List Char := if b then "true".toList else "false".toList

mutual

/-- The characters of a value without any space. -/
def chars : Json → List Char
  | .null => "null".toList
  | .bool b => boolChars b
  | .number n => n.text.toList
  | .string s => quote s
  | .array items => '[' :: itemChars items ++ [']']
  | .object members => '{' :: memberChars members ++ ['}']

/-- The items of an array with commas between them. -/
def itemChars : List Json → List Char
  | [] => []
  | [j] => chars j
  | j :: rest => chars j ++ ',' :: itemChars rest

/-- The members of an object with commas between them. -/
def memberChars : List (String × Json) → List Char
  | [] => []
  | [(k, j)] => quote k ++ ':' :: chars j
  | (k, j) :: rest => quote k ++ ':' :: chars j ++ ',' :: memberChars rest

end

/-- The text of a value without any space. -/
def compact (j : Json) : String := String.ofList (chars j)

/-- A line break and two spaces for every level. -/
def lineBreak (level : Nat) : List Char := '\n' :: List.replicate (2 * level) ' '

mutual

/-- The characters of a value that stands at a level, one item or member on a line. -/
def prettyChars (level : Nat) : Json → List Char
  | .null => "null".toList
  | .bool b => boolChars b
  | .number n => n.text.toList
  | .string s => quote s
  | .array [] => ['[', ']']
  | .array (j :: rest) =>
    '[' :: lineBreak (level + 1) ++ prettyItems (level + 1) (j :: rest) ++ lineBreak level ++ [']']
  | .object [] => ['{', '}']
  | .object (m :: rest) =>
    '{' :: lineBreak (level + 1) ++ prettyMembers (level + 1) (m :: rest) ++ lineBreak level
      ++ ['}']

/-- The items of an array, each on its line. -/
def prettyItems (level : Nat) : List Json → List Char
  | [] => []
  | [j] => prettyChars level j
  | j :: rest => prettyChars level j ++ ',' :: lineBreak level ++ prettyItems level rest

/-- The members of an object, each on its line. -/
def prettyMembers (level : Nat) : List (String × Json) → List Char
  | [] => []
  | [(k, j)] => quote k ++ ':' :: ' ' :: prettyChars level j
  | (k, j) :: rest =>
    quote k ++ ':' :: ' ' :: prettyChars level j ++ ',' :: lineBreak level
      ++ prettyMembers level rest

end

/-- The text of a value with one item or member on a line. -/
def pretty (j : Json) : String := String.ofList (prettyChars 0 j)

end Crossmap.Json
