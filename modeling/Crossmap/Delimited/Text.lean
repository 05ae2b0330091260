/-!
# Delimited text

A delimited text is a row of records, each a row of fields, all of them bytes. A field that holds
the delimiter, a quote or a line break stands in quotes, and quotes inside it are doubled.

`encode` writes records. `decode` reads them, and more than `encode` writes: it skips empty lines,
ends a record at a line feed as well as at a carriage return, takes quotes for what they are only at
the beginning of a field, and takes what follows a closing quote as part of the field. It also tells
where each record begins, which is where the one before it ended.
-/

namespace Crossmap.Delimited

/-- The quote. -/
def quote : UInt8 := 0x22

/-- The line feed. -/
def lineFeed : UInt8 := 0x0A

/-- The carriage return. -/
def carriageReturn : UInt8 := 0x0D

/-- Whether a byte ends a record. -/
def isBreak (b : UInt8) : Bool := b = lineFeed || b = carriageReturn

/-! ## Writing -/

/-- Whether a field has to stand in quotes. -/
def needsQuotes (delimiter : UInt8) (field : List UInt8) : Bool :=
  field.any fun b => b = delimiter || b = quote || isBreak b

/-- A field as it is written. -/
def encodeField (delimiter : UInt8) (field : List UInt8) : List UInt8 :=
  if needsQuotes delimiter field then
    quote :: field.flatMap (fun b => if b = quote then [quote, quote] else [b]) ++ [quote]
  else field

/-- Fields with delimiters between them. -/
def encodeFields (delimiter : UInt8) : List (List UInt8) → List UInt8
  | [] => []
  | [field] => encodeField delimiter field
  | field :: rest => encodeField delimiter field ++ delimiter :: encodeFields delimiter rest

/-- A record as it is written, on a line that is not empty. -/
def encodeRecord (delimiter : UInt8) (record : List (List UInt8)) : List UInt8 :=
  let line := encodeFields delimiter record
  (if line.isEmpty then [quote, quote] else line) ++ [lineFeed]

/-- Records as they are written. -/
def encode (delimiter : UInt8) (records : List (List (List UInt8))) : List UInt8 :=
  records.flatMap (encodeRecord delimiter)

/-! ## Reading -/

/-- A place in a text. -/
structure Position where
  byte : Nat
  /-- One more than the line feeds before it. -/
  line : Nat
  deriving DecidableEq, Inhabited

/-- The place before the first byte. -/
def Position.start : Position := ⟨0, 1⟩

/-- The place after a byte. -/
def Position.next (p : Position) (b : UInt8) : Position :=
  ⟨p.byte + 1, if b = lineFeed then p.line + 1 else p.line⟩

/-- A record with the place where it begins. -/
structure RawRecord where
  /-- The place after the record before it. -/
  start : Position
  fields : List (List UInt8)
  deriving DecidableEq, Inhabited

/-- What the next byte is read as. -/
inductive State where
  | recordStart
  /-- The first byte of a field that is not the first one. -/
  | fieldStart
  | field
  | quoted
  /-- The byte after a quote inside quotes. -/
  | afterQuote
  deriving DecidableEq, Inhabited

/-- What has been read of a text. -/
structure Scan where
  state : State
  /-- The place after the last complete record. -/
  start : Position
  here : Position
  /-- The records that are complete, the last one first. -/
  records : List RawRecord
  /-- The complete fields of the record that is not complete, the last one first. -/
  fields : List (List UInt8)
  /-- The bytes of the field that is not complete, the last one first. -/
  current : List UInt8
  deriving DecidableEq, Inhabited

namespace Scan

/-- Nothing has been read before a place. -/
def fresh (here : Position) : Scan := ⟨.recordStart, .start, here, [], [], []⟩

/-- The record that ends here. -/
def record (s : Scan) : RawRecord := ⟨s.start, (s.current.reverse :: s.fields).reverse⟩

/-- The field goes on with a byte. -/
def push (s : Scan) (state : State) (b : UInt8) : Scan :=
  { s with state := state, current := b :: s.current }

/-- The field ends and another one begins. -/
def endField (s : Scan) : Scan :=
  { s with state := .fieldStart, fields := s.current.reverse :: s.fields, current := [] }

/-- The record ends. -/
def endRecord (s : Scan) : Scan :=
  ⟨.recordStart, s.here, s.here, s.record :: s.records, [], []⟩

/-- Reads a byte outside quotes. -/
def plain (delimiter b : UInt8) (s : Scan) : Scan :=
  if b = delimiter then s.endField
  else if isBreak b then s.endRecord
  else s.push .field b

/-- Reads the first byte of a field. -/
def first (delimiter b : UInt8) (s : Scan) : Scan :=
  if b = quote then { s with state := .quoted } else s.plain delimiter b

/-- Reads a byte whose place has been counted. -/
def take (delimiter b : UInt8) (s : Scan) : Scan :=
  match s.state with
  | .recordStart => if isBreak b then s else s.first delimiter b
  | .fieldStart => s.first delimiter b
  | .field => s.plain delimiter b
  | .quoted => if b = quote then { s with state := .afterQuote } else s.push .quoted b
  | .afterQuote => if b = quote then s.push .quoted b else s.plain delimiter b

/-- Reads a byte. -/
def step (delimiter : UInt8) (s : Scan) (b : UInt8) : Scan :=
  take delimiter b { s with here := s.here.next b }

/-- The records at the end of a text, which also ends a record that has been begun. -/
def finish (s : Scan) : List RawRecord :=
  match s.state with
  | .recordStart => s.records.reverse
  | _ => (s.record :: s.records).reverse

end Scan

/-- Reads the records of a text from a place on. -/
def decodeFrom (delimiter : UInt8) (here : Position) (bs : List UInt8) : List RawRecord :=
  (bs.foldl (Scan.step delimiter) (.fresh here)).finish

/-- Reads the records of a text. A mark of the byte order at its front is not part of them. -/
def decode (delimiter : UInt8) : List UInt8 → List RawRecord
  | 0xEF :: 0xBB :: 0xBF :: bs => decodeFrom delimiter ⟨3, 1⟩ bs
  | bs => decodeFrom delimiter .start bs

end Crossmap.Delimited
