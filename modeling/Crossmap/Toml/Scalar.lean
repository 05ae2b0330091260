import Crossmap.Number.Binary64
import Crossmap.Number.Decimal
import Crossmap.Text.Hexadecimal

/-!
# Scalars of TOML

Strings of all four kinds, and the words that are numbers or times.
-/

namespace Crossmap.Toml

/-- The white space within a line. -/
def isGap (c : Char) : Bool := c = ' ' || c = '\t'

/-- Whether a character can stand in a comment or a string of one line. -/
def isPlainChar (c : Char) : Bool := c = '\t' || (0x20 ≤ c.toNat && c.toNat ≠ 0x7F)

/-- What follows a line break at the front. -/
def afterBreak? : List Char → Option (List Char)
  | '\n' :: cs => some cs
  | '\r' :: '\n' :: cs => some cs
  | _ => none

/-! ## Strings -/

/-- Reads an escape after its backslash: the character, and what follows. -/
def escape? : List Char → Option (Char × List Char)
  | 'b' :: cs => some ('\x08', cs)
  | 't' :: cs => some ('\t', cs)
  | 'n' :: cs => some ('\n', cs)
  | 'f' :: cs => some ('\x0c', cs)
  | 'r' :: cs => some ('\r', cs)
  | '"' :: cs => some ('"', cs)
  | '\\' :: cs => some ('\\', cs)
  | 'u' :: a :: b :: c :: d :: cs => (Text.charOfHex? [a, b, c, d]).map (·, cs)
  | 'U' :: a :: b :: c :: d :: e :: f :: g :: h :: cs =>
    (Text.charOfHex? [a, b, c, d, e, f, g, h]).map (·, cs)
  | _ => none

/-- A character before those that a reading gives. -/
def before (c : Char) (r : Option (List Char × List Char)) : Option (List Char × List Char) :=
  r.map fun r => (c :: r.1, r.2)

/-- Reads a string of one line after its opening quote. The first argument bounds its length. -/
def lineString (quote : Char) : Nat → List Char → Option (List Char × List Char)
  | 0, _ => none
  | _, [] => none
  | n + 1, c :: cs =>
    if c = quote then some ([], cs)
    else if c = '\\' && quote = '"' then do
      let (e, rest) ← escape? cs
      before e (lineString quote n rest)
    else if isPlainChar c then before c (lineString quote n cs)
    else none

/-- Skips white space and line breaks. -/
def skipSpace : List Char → List Char
  | '\r' :: '\n' :: cs => skipSpace cs
  | c :: cs => if isGap c || c = '\n' then skipSpace cs else c :: cs
  | [] => []

/-- What follows a backslash that ends a line: the next text on further lines. -/
def afterLineEnd? (cs : List Char) : Option (List Char) :=
  (afterBreak? (cs.dropWhile isGap)).map skipSpace

/-- Whether three quotes stand at the front, and no further one that still belongs to the text. -/
def closesBlock (quote : Char) (cs : List Char) : Bool :=
  [quote, quote, quote].isPrefixOf cs && (cs.drop 3).head? ≠ some quote

/-- Reads a string of several lines after its opening quotes. Two quotes may stand before the
closing ones. The first argument bounds its length. -/
def blockString (quote : Char) : Nat → List Char → Option (List Char × List Char)
  | 0, _ => none
  | _, [] => none
  | n + 1, c :: cs =>
    if closesBlock quote (c :: cs) then some ([], cs.drop 2)
    else if [quote, quote, quote, quote, quote, quote].isPrefixOf (c :: cs) then none
    else if c = '\\' && quote = '"' then
      match afterLineEnd? cs with
      | some rest => blockString quote n rest
      | none => do
        let (e, rest) ← escape? cs
        before e (blockString quote n rest)
    else
      match afterBreak? (c :: cs) with
      | some rest => before '\n' (blockString quote n rest)
      | none => if isPlainChar c then before c (blockString quote n cs) else none

/-- Reads a string of either length after its first quote. -/
def string? (quote : Char) (cs : List Char) : Option (List Char × List Char) :=
  if [quote, quote].isPrefixOf cs then
    let rest := cs.drop 2
    blockString quote (rest.length + 1) ((afterBreak? rest).getD rest)
  else lineString quote (cs.length + 1) cs

/-! ## Numbers -/

/-- Whether digits stand in groups with single underscores between them. -/
def isGrouped (isDigit : Char → Bool) : List Char → Bool
  | [] => false
  | [c] => isDigit c
  | c :: '_' :: cs => isDigit c && isGrouped isDigit cs
  | c :: cs => isDigit c && isGrouped isDigit cs

/-- The number that grouped digits write. -/
def groupedValue (base : Nat) (cs : List Char) : Nat :=
  cs.foldl (fun acc c => (Text.hexValue? c).elim acc (base * acc + ·)) 0

/-- A word without the sign at its front, and whether that was a minus. -/
def unsigned : List Char → Bool × List Char
  | '+' :: cs => (false, cs)
  | '-' :: cs => (true, cs)
  | cs => (false, cs)

/-- Whether grouped decimal digits do not begin with a zero that another digit follows. -/
def isDecimal (cs : List Char) : Bool :=
  isGrouped Char.isDigit cs && (cs.head? ≠ some '0' || cs.length = 1)

/-- Whether a word is an integer of 64 bits. -/
def isInteger (cs : List Char) : Bool :=
  let based (base : Nat) (isDigit : Char → Bool) (ds : List Char) : Bool :=
    isGrouped isDigit ds && groupedValue base ds < Nat.pow 2 63
  match cs with
  | '0' :: 'x' :: ds => based 16 (fun c => (Text.hexValue? c).isSome) ds
  | '0' :: 'o' :: ds => based 8 (fun c => '0' ≤ c && c ≤ '7') ds
  | '0' :: 'b' :: ds => based 2 (fun c => c = '0' || c = '1') ds
  | _ =>
    let (negative, ds) := unsigned cs
    isDecimal ds && (Code.ofDigits? negative (ds.filter Char.isDigit)).isSome

/-- The number that grouped decimal digits write. -/
def decimalValue (cs : List Char) : Nat := digitsValue (cs.filter Char.isDigit)

/-- The exponent that grouped decimal digits and a sign write. -/
def exponentValue (cs : List Char) : Int :=
  let (negative, ds) := unsigned cs
  if negative then -(decimalValue ds : Int) else decimalValue ds

/-- Whether a word is a number in floating point. A number that is too large is none, unless it is
negative. -/
def isFloat (cs : List Char) : Bool :=
  let (negative, ds) := unsigned cs
  if ds = "inf".toList || ds = "nan".toList then true
  else
    let (mantissa, exponent) := ds.span fun c => c ≠ 'e' && c ≠ 'E'
    let (whole, fraction) := mantissa.span (· ≠ '.')
    let places := (fraction.filter Char.isDigit).length
    isDecimal whole && !(exponent.isEmpty && fraction.isEmpty)
      && (fraction.isEmpty || isGrouped Char.isDigit (fraction.drop 1))
      && (exponent.isEmpty || isGrouped Char.isDigit (unsigned (exponent.drop 1)).2)
      && (negative || !Binary64.overflows (decimalValue mantissa)
        (exponentValue (exponent.drop 1) - places))

/-! ## Times -/

/-- The number that a certain count of digits at the front writes, and what follows. -/
def digits? (count : Nat) (cs : List Char) : Option (Nat × List Char) :=
  let ds := cs.take count
  if ds.length = count && ds.all Char.isDigit then some (digitsValue ds, cs.drop count) else none

/-- What follows a character at the front. -/
def skip? (c : Char) : List Char → Option (List Char)
  | d :: cs => if d = c then some cs else none
  | [] => none

/-- The number of days of a month. -/
def daysIn (year month : Nat) : Nat :=
  if month = 2 then
    if year % 4 = 0 && (year % 100 ≠ 0 || year % 400 = 0) then 29 else 28
  else if month ∈ [4, 6, 9, 11] then 30 else 31

/-- What follows a date at the front. -/
def date? (cs : List Char) : Option (List Char) := do
  let (year, cs) ← digits? 4 cs
  let (month, cs) ← digits? 2 (← skip? '-' cs)
  let (day, cs) ← digits? 2 (← skip? '-' cs)
  if 1 ≤ month && month ≤ 12 && 1 ≤ day && day ≤ daysIn year month then some cs else none

/-- What follows a time of day at the front. -/
def clock? (cs : List Char) : Option (List Char) := do
  let (hour, cs) ← digits? 2 cs
  let (minute, cs) ← digits? 2 (← skip? ':' cs)
  let (second, cs) ← digits? 2 (← skip? ':' cs)
  if 23 < hour || 59 < minute || 60 < second then none
  else
    match cs with
    | '.' :: rest =>
      if rest.head?.any Char.isDigit then some (rest.dropWhile Char.isDigit) else none
    | rest => some rest

/-- Whether what follows a time is an offset, or nothing. -/
def isOffset (cs : List Char) : Bool :=
  match cs with
  | [] => true
  | [c] => c = 'Z' || c = 'z'
  | c :: rest =>
    (c = '+' || c = '-') &&
      (do
        let (hour, rest) ← digits? 2 rest
        let (minute, rest) ← digits? 2 (← skip? ':' rest)
        if hour < 24 && minute < 60 then some rest else none) = some []

/-- Whether a word is a date, a time of day, or both. -/
def isTime (cs : List Char) : Bool :=
  match date? cs with
  | some [] => true
  | some (c :: rest) => c ∈ ['T', 't', ' '] && (clock? rest).any isOffset
  | none => clock? cs = some []

end Crossmap.Toml
