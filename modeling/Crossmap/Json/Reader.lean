import Crossmap.Json.Source
import Crossmap.Text.Hexadecimal

/-!
# Reading JSON

`JsonText.read?` reads a whole text by the JSON grammar, without comments, trailing commas or
anything around the value but white space. `Json.read?` also asks for the value.
-/

namespace Crossmap

namespace JsonText

/-- The white space of JSON. -/
def isSpace (c : Char) : Bool := c = ' ' || c = '\t' || c = '\n' || c = '\r'

/-- What follows the white space at the front. -/
def skipSpace (cs : List Char) : List Char := cs.dropWhile isSpace

/-- What follows a word at the front. -/
def dropWord? (word : List Char) (cs : List Char) : Option (List Char) :=
  if word.isPrefixOf cs then some (cs.drop word.length) else none

/-- The character of an escape of one letter. -/
def escape? : Char → Option Char
  | '"' => some '"'
  | '\\' => some '\\'
  | '/' => some '/'
  | 'b' => some '\x08'
  | 'f' => some '\x0c'
  | 'n' => some '\n'
  | 'r' => some '\r'
  | 't' => some '\t'
  | _ => none

/-- Reads a string after its opening quote: its pieces, and what follows the closing quote. -/
def literal? : List Char → Option (Literal × List Char)
  | [] => none
  | '"' :: cs => some ([], cs)
  | '\\' :: 'u' :: a :: b :: c :: d :: cs =>
    match Text.hexNumber? [a, b, c, d] with
    | none => none
    | some n => (literal? cs).map fun r => (.unit n :: r.1, r.2)
  | '\\' :: e :: cs =>
    match escape? e with
    | none => none
    | some c => (literal? cs).map fun r => (.char c :: r.1, r.2)
  | c :: cs =>
    if c.toNat < 0x20 then none else (literal? cs).map fun r => (.char c :: r.1, r.2)

/-- The digits at the front, and what follows them. -/
def digitRun (cs : List Char) : List Char × List Char := cs.span Char.isDigit

/-- Reads the fraction of a number, if there is a point. -/
def fraction? : List Char → Option (Option (List Char) × List Char)
  | '.' :: cs =>
    match digitRun cs with
    | ([], _) => none
    | (ds, rest) => some (some ds, rest)
  | cs => some (none, cs)

/-- Reads the digits of an exponent. -/
def exponentDigits? (down : Bool) (cs : List Char) :
    Option (Option (Bool × List Char) × List Char) :=
  match digitRun cs with
  | ([], _) => none
  | (ds, rest) => some (some (down, ds), rest)

/-- Reads the exponent of a number, if there is one. -/
def exponent? : List Char → Option (Option (Bool × List Char) × List Char)
  | c :: cs =>
    if c = 'e' ∨ c = 'E' then
      match cs with
      | '+' :: rest => exponentDigits? false rest
      | '-' :: rest => exponentDigits? true rest
      | rest => exponentDigits? false rest
    else some (none, c :: cs)
  | [] => some (none, [])

/-- Reads a number after its sign. Only a single zero may begin with zero. -/
def numeral? (negative : Bool) (cs : List Char) : Option (Numeral × List Char) := do
  let (ds, rest) := digitRun cs
  if ds.isEmpty || (ds.head? == some '0' && 1 < ds.length) then none
  else
    let (fraction, rest) ← fraction? rest
    let (exponent, rest) ← exponent? rest
    return (⟨negative, ds, fraction, exponent⟩, rest)

mutual

/-- Reads a value. The first argument bounds the nesting of the calls. -/
def value : Nat → List Char → Option (JsonText × List Char)
  | 0, _ => none
  | n + 1, cs =>
    match skipSpace cs with
    | '"' :: rest => (literal? rest).map fun l => (.string l.1, l.2)
    | '[' :: rest =>
      match skipSpace rest with
      | ']' :: rest => some (.array [], rest)
      | rest => (items n rest).map fun r => (.array r.1, r.2)
    | '{' :: rest =>
      match skipSpace rest with
      | '}' :: rest => some (.object [], rest)
      | rest => (members n rest).map fun r => (.object r.1, r.2)
    | '-' :: rest => (numeral? true rest).map fun r => (.number r.1, r.2)
    | 'n' :: rest => (dropWord? "ull".toList rest).map fun r => (.null, r)
    | 't' :: rest => (dropWord? "rue".toList rest).map fun r => (.bool true, r)
    | 'f' :: rest => (dropWord? "alse".toList rest).map fun r => (.bool false, r)
    | rest => (numeral? false rest).map fun r => (.number r.1, r.2)

/-- Reads the items of an array up to the closing bracket. -/
def items : Nat → List Char → Option (List JsonText × List Char)
  | 0, _ => none
  | n + 1, cs =>
    match value n cs with
    | none => none
    | some (j, rest) =>
      match skipSpace rest with
      | ',' :: rest => (items n rest).map fun r => (j :: r.1, r.2)
      | ']' :: rest => some ([j], rest)
      | _ => none

/-- Reads the members of an object up to the closing brace. -/
def members : Nat → List Char → Option (List (Literal × JsonText) × List Char)
  | 0, _ => none
  | n + 1, cs =>
    match skipSpace cs with
    | '"' :: rest =>
      match literal? rest with
      | none => none
      | some (name, rest) =>
        match skipSpace rest with
        | ':' :: rest =>
          match value n rest with
          | none => none
          | some (j, rest) =>
            let m := (name, j)
            match skipSpace rest with
            | ',' :: rest => (members n rest).map fun r => (m :: r.1, r.2)
            | '}' :: rest => some ([m], rest)
            | _ => none
        | _ => none
    | _ => none

end

/-- Reads a document: one value with nothing but white space around it. -/
def read? (s : String) : Option JsonText :=
  let cs := s.toList
  match value (2 * cs.length + 2) cs with
  | some (j, rest) => if (skipSpace rest).isEmpty then some j else none
  | none => none

end JsonText

namespace Json

/-- The value that a JSON text means. -/
def read? (s : String) : Option Json := (JsonText.read? s).bind JsonText.value?

end Json

end Crossmap
