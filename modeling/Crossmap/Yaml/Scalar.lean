import Crossmap.Text.Hexadecimal
import Crossmap.Yaml.Place

/-!
# Scalars of YAML

A scalar stands in double quotes with escapes, in single quotes, or without quotes. White space
inside it is folded: a run with one line break is a space, and a run with more is one line break
less than it has.

The readers carry the white space since the last character and the characters so far, the last one
first in both.
-/

namespace Crossmap.Yaml

/-- What a run of white space means inside a scalar. After an escaped line break, `joined`, only
further line breaks count. A first break that is no line feed is not folded. -/
def folded (joined : Bool) (run : List Char) : List Char :=
  let breaks := run.filter isBreak
  if joined then breaks
  else
    match breaks with
    | [] => run
    | first :: more =>
      if first ≠ '\n' then first :: more
      else if more.isEmpty then [' ']
      else more

/-- The characters so far with the white space behind them folded. -/
def settled (joined : Bool) (run done : List Char) : List Char :=
  (folded joined run.reverse).reverse ++ done

/-- The character of an escape of one letter. -/
def escape? : Char → Option Char
  | '0' => some '\x00'
  | 'a' => some '\x07'
  | 'b' => some '\x08'
  | 't' => some '\t'
  | '\t' => some '\t'
  | 'n' => some '\n'
  | 'v' => some '\x0b'
  | 'f' => some '\x0c'
  | 'r' => some '\r'
  | 'e' => some '\x1b'
  | ' ' => some ' '
  | '"' => some '"'
  | '/' => some '/'
  | '\\' => some '\\'
  | 'N' => some (Char.ofNat 0x85)
  | '_' => some (Char.ofNat 0xA0)
  | 'L' => some (Char.ofNat 0x2028)
  | 'P' => some (Char.ofNat 0x2029)
  | _ => none

/-- Reads a scalar after its double quote: its characters, and what follows the closing quote. -/
def doubleQuoted (joined : Bool) (run done : List Char) (p : Place) :
    List Char → Option (List Char × Cursor)
  | [] => none
  | '\\' :: 'x' :: a :: b :: cs => do
    let c ← Text.charOfHex? [a, b]
    doubleQuoted false [] (c :: settled joined run done) (p.afterAll ['\\', 'x', a, b]) cs
  | '\\' :: 'u' :: a :: b :: c :: d :: cs => do
    let e ← Text.charOfHex? [a, b, c, d]
    doubleQuoted false [] (e :: settled joined run done) (p.afterAll ['\\', 'u', a, b, c, d]) cs
  | '\\' :: 'U' :: a :: b :: c :: d :: e :: f :: g :: h :: cs => do
    let i ← Text.charOfHex? [a, b, c, d, e, f, g, h]
    doubleQuoted false [] (i :: settled joined run done)
      (p.afterAll ['\\', 'U', a, b, c, d, e, f, g, h]) cs
  | '\\' :: e :: cs =>
    if isBreak e then doubleQuoted true [] (settled joined run done) (p.after e) cs
    else do
      let c ← escape? e
      doubleQuoted false [] (c :: settled joined run done) (p.afterAll ['\\', e]) cs
  | c :: cs =>
    if isSpace c then doubleQuoted joined (c :: run) done (p.after c) cs
    else if atDocumentMark p (c :: cs) then none
    else if c = '"' then some ((settled joined run done).reverse, ⟨p.after c, cs⟩)
    else doubleQuoted false [] (c :: settled joined run done) (p.after c) cs

/-- Reads a scalar after its single quote; two of them write one. -/
def singleQuoted (run done : List Char) (p : Place) : List Char → Option (List Char × Cursor)
  | [] => none
  | '\'' :: '\'' :: cs =>
    singleQuoted [] ('\'' :: settled false run done) (p.afterAll ['\'', '\'']) cs
  | c :: cs =>
    if isSpace c then singleQuoted (c :: run) done (p.after c) cs
    else if atDocumentMark p (c :: cs) then none
    else if c = '\'' then some ((settled false run done).reverse, ⟨p.after c, cs⟩)
    else singleQuoted [] (c :: settled false run done) (p.after c) cs

/-! ## Scalars without quotes -/

/-- The characters that structure a flow collection. -/
def isFlowMark (c : Char) : Bool := c ∈ [',', '[', ']', '{', '}']

/-- Whether a character begins something other than a scalar without quotes. -/
def isIndicator (c : Char) : Bool :=
  isFlowMark c || c ∈ ['#', '&', '*', '!', '|', '>', '\'', '"', '%', '@', Char.ofNat 0x60]

/-- Whether a scalar without quotes begins with the character and what follows it. -/
def beginsPlain (inFlow : Bool) (c : Char) (cs : List Char) : Bool :=
  if c = '-' then !atSpace cs
  else if c = '?' || c = ':' then !inFlow && !atSpace cs
  else !isSpace c && !isIndicator c

/-- A scalar without quotes, as it was read. -/
structure PlainText where
  chars : List Char
  endsLine : Bool
  /-- What follows it and the white space behind it. -/
  after : Cursor

/-- Whether a character, with white space in front of it or not, ends a scalar without quotes. A
colon before white space does, and in a flow collection its marks do; after white space so do a
comment, the mark of a document and, outside flow collections, a column too far to the left. -/
def endsPlain (inFlow : Bool) (column : Nat) (afterSpace : Bool) (p : Place) (c : Char)
    (cs : List Char) : Bool :=
  (c = ':' && atSpace cs) || (inFlow && isFlowMark c)
    || (afterSpace && (c = '#' || atDocumentMark p (c :: cs) || (!inFlow && p.column < column)))

/-- Whether a colon stands before a mark of a flow collection, where it means nothing. -/
def isStrayColon (c : Char) (cs : List Char) : Bool :=
  c = ':' && cs.head?.any fun d => d = '?' || isFlowMark d

/-- Reads a scalar without quotes, whose further lines begin at least in a column. -/
def plainText (inFlow : Bool) (column : Nat) (run done : List Char) (p : Place) :
    List Char → Option PlainText
  | [] => some ⟨done.reverse, run.any isBreak, ⟨p, []⟩⟩
  | c :: cs =>
    if isSpace c then
      if c = '\t' && p.column < column && run.any isBreak then none
      else plainText inFlow column (c :: run) done (p.after c) cs
    else if endsPlain inFlow column (!run.isEmpty) p c cs then
      some ⟨done.reverse, run.any isBreak, ⟨p, c :: cs⟩⟩
    else if inFlow && isStrayColon c cs then none
    else plainText inFlow column [] (c :: settled false run done) (p.after c) cs

end Crossmap.Yaml
