import Crossmap.Toml.Node
import Crossmap.Toml.Scalar

/-!
# Reading TOML

`Toml.read?` reads a document line by line: keys with their values, headers of tables and of arrays
of tables, and comments. Collections are nested less than `nestingLimit` deep, and no key has as
many parts.
-/

namespace Crossmap.Toml

/-- Skips the white space within a line. -/
def skipGap (cs : List Char) : List Char := cs.dropWhile isGap

/-- What follows the end of a line, which a comment may precede. -/
def lineEnd? (cs : List Char) : Option (List Char) :=
  let rest := skipGap cs
  let rest := if rest.head? = some '#' then rest.dropWhile isPlainChar else rest
  if rest.isEmpty then some [] else afterBreak? rest

/-- Whether a character can stand in a key without quotes. -/
def isKeyChar (c : Char) : Bool := c.isAlphanum || c = '_' || c = '-'

/-- Reads one part of a key. -/
def keyPart? (cs : List Char) : Option (String × List Char) :=
  match cs with
  | '"' :: rest => (lineString '"' (rest.length + 1) rest).map fun r => (String.ofList r.1, r.2)
  | '\'' :: rest => (lineString '\'' (rest.length + 1) rest).map fun r => (String.ofList r.1, r.2)
  | cs =>
    let (part, rest) := cs.span isKeyChar
    if part.isEmpty then none else some (String.ofList part, rest)

/-- Reads the parts of a key with dots between them. The first argument bounds their number. -/
def keyParts : Nat → List Char → Option (List String × List Char)
  | 0, _ => none
  | n + 1, cs => do
    let (part, rest) ← keyPart? (skipGap cs)
    match skipGap rest with
    | '.' :: rest =>
      let (parts, rest) ← keyParts n rest
      return (part :: parts, rest)
    | rest => return ([part], rest)

/-- The depth at which collections are nested too deep, and the number of parts at which a key has
too many. -/
def nestingLimit : Nat := 80

/-- Reads a key. -/
def key? (cs : List Char) : Option (List String × List Char) := do
  let (parts, rest) ← keyParts (cs.length + 1) cs
  if parts.length < nestingLimit then return (parts, rest) else none

/-- A key as the path to its last part, and that part. -/
def splitKey? (parts : List String) : Option (List String × String) :=
  parts.getLast?.map fun last => (parts.dropLast, last)

/-- What follows the white space, line breaks and comments inside an array. The first argument
bounds the number of lines. -/
def skipLines : Nat → List Char → Option (List Char)
  | 0, _ => none
  | n + 1, cs =>
    let rest := skipGap cs
    if rest.head? = some '#' || (afterBreak? rest).isSome then
      (lineEnd? rest).bind (skipLines n)
    else some rest

/-- Whether a character can stand in a word that is no string. -/
def isWordChar (c : Char) : Bool := c.isAlphanum || c ∈ ['_', '-', '+', '.', ':']

/-- Reads a value that is one word; a date and a time may have a blank between them. -/
def word? (cs : List Char) : Option (Toml × List Char) :=
  let (word, rest) := cs.span isWordChar
  let longer := word ++ ' ' :: (rest.drop 1).takeWhile isWordChar
  if word = "true".toList then some (.bool true, rest)
  else if word = "false".toList then some (.bool false, rest)
  else if rest.head? = some ' ' && date? word = some [] && isTime longer then
    some (.measure, cs.drop longer.length)
  else if isInteger word || isFloat word || isTime word then some (.measure, rest)
  else none

/-- A table in braces, to which nothing can be added any more. -/
def closed : Toml → Toml
  | .table _ ms => .table .inline ms
  | t => t

mutual

/-- Reads a value that can hold a certain number of collections within one another. The first
argument bounds the nesting of the calls. -/
def value : Nat → (room : Nat) → List Char → Option (Toml × List Char)
  | n + 1, room + 1, '[' :: rest => (items n room rest).map fun r => (.array r.1, r.2)
  | n + 1, room + 1, '{' :: rest =>
    match skipGap rest with
    | '}' :: rest => some (emptyTable .inline, rest)
    | rest => (members n room (emptyTable .dotted) rest).map fun r => (closed r.1, r.2)
  | _ + 1, _, '"' :: rest => (string? '"' rest).map fun r => (.text (String.ofList r.1), r.2)
  | _ + 1, _, '\'' :: rest => (string? '\'' rest).map fun r => (.text (String.ofList r.1), r.2)
  | _ + 1, _, cs => word? cs
  | 0, _, _ => none

/-- Reads the items of an array up to the closing bracket. -/
def items : Nat → (room : Nat) → List Char → Option (List Toml × List Char)
  | 0, _, _ => none
  | n + 1, room, cs => do
    match ← skipLines (cs.length + 1) cs with
    | ']' :: rest => return ([], rest)
    | rest =>
      let (item, rest) ← value n room rest
      match ← skipLines (rest.length + 1) rest with
      | ',' :: rest =>
        let (more, rest) ← items n room rest
        return (item :: more, rest)
      | ']' :: rest => return ([item], rest)
      | _ => none

/-- Reads the members of a table in braces, added to those before them. -/
def members : Nat → (room : Nat) → Toml → List Char → Option (Toml × List Char)
  | 0, _, _, _ => none
  | n + 1, room, before, cs => do
    let (grown, rest) ← member n room before cs
    match skipGap rest with
    | ',' :: rest => members n room grown rest
    | '}' :: rest => return (grown, rest)
    | _ => none

/-- Reads a key and its value, added to a table. -/
def member : Nat → (room : Nat) → Toml → List Char → Option (Toml × List Char)
  | 0, _, _, _ => none
  | n + 1, room, before, cs => do
    let (parts, rest) ← key? cs
    let (path, key) ← splitKey? parts
    let (v, rest) ← value n room (skipGap (← skip? '=' rest))
    return (← define key v path before, rest)

end

/-- What has been read of a document. -/
structure Progress where
  root : Toml
  /-- The path of the table to which keys are added. -/
  current : List String

/-- Reads the header of a table after its bracket. -/
def header? (p : Progress) (cs : List Char) : Option (Progress × List Char) := do
  let (parts, rest) ← key? cs
  let (path, key) ← splitKey? parts
  return (⟨← openTable path key p.root, parts⟩, ← skip? ']' rest)

/-- Reads the header of a table of an array after its two brackets. -/
def arrayHeader? (p : Progress) (cs : List Char) : Option (Progress × List Char) := do
  let (parts, rest) ← key? cs
  let (path, key) ← splitKey? parts
  return (⟨← extendTables path key p.root, parts⟩, ← skip? ']' (← skip? ']' rest))

/-- Reads a key and its value in the current table. -/
def entry? (p : Progress) (cs : List Char) : Option (Progress × List Char) := do
  let (parts, rest) ← key? cs
  let (path, key) ← splitKey? parts
  let start := skipGap (← skip? '=' rest)
  let (v, rest) ← value (4 * start.length + 4) (nestingLimit - 1) start
  return (⟨← within (define key v path) p.current p.root, p.current⟩, rest)

/-- Reads the lines of a document. The first argument bounds their number. -/
def lines : Nat → Progress → List Char → Option Toml
  | 0, _, _ => none
  | _ + 1, p, [] => some p.root
  | n + 1, p, cs => do
    match skipGap cs with
    | '[' :: '[' :: rest =>
      let (p, rest) ← arrayHeader? p rest
      lines n p (← lineEnd? rest)
    | '[' :: rest =>
      let (p, rest) ← header? p rest
      lines n p (← lineEnd? rest)
    | rest =>
      match lineEnd? rest with
      | some rest => lines n p rest
      | none =>
        let (p, rest) ← entry? p rest
        lines n p (← lineEnd? rest)

/-- Reads a document. -/
def read? (s : String) : Option Toml :=
  let cs := match s.toList with
    | c :: rest => if c.toNat = 0xFEFF then rest else c :: rest
    | [] => []
  lines (cs.length + 1) ⟨emptyTable .header, []⟩ cs

end Crossmap.Toml
