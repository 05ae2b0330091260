import Crossmap.Json.Value

/-!
# JSON documents as they are written

`JsonText` keeps what a document says before anybody asks what it means: numbers by their digits,
strings by their pieces, and members in their order with repetitions. A part of a document that is
never looked at is therefore held to the grammar alone. `JsonText.value?` is the value that the
document means; there is none where a number is out of range or half of a surrogate pair stands
alone in a string.
-/

namespace Crossmap

/-- A number by its digits. -/
structure Numeral where
  /-- Whether it begins with a minus sign. -/
  negative : Bool
  wholeDigits : List Char
  /-- The digits after the point, if there is one. -/
  fraction : Option (List Char)
  /-- The exponent, if there is one: whether it is negative, and its digits. -/
  exponent : Option (Bool × List Char)
  deriving DecidableEq, Inhabited

namespace Numeral

/-- Reads digits as long as the number stays below `2 ^ 64`: the number, and the digits left. -/
def absorb (n : Nat) : List Char → Nat × List Char
  | [] => (n, [])
  | d :: ds =>
    let next := 10 * n + (d.toNat - '0'.toNat)
    if next < Nat.pow 2 64 then absorb next ds else (n, d :: ds)

/-- The value of an exponent's digits, unless it exceeds 31 bits. -/
def exponentValue? (digits : List Char) : Option Nat :=
  let n := digitsValue digits
  if n < Nat.pow 2 31 then some n else none

/-- A number with a power of ten. An exponent of more than 31 bits leaves only zero in range. -/
def scaledValue? (negative : Bool) (significand : Nat) (places : Int) :
    Option (Bool × List Char) → Option Number
  | none => (Binary64.ofScaled negative significand places).map .binary
  | some (down, digits) =>
    match exponentValue? digits with
    | some e =>
      let exponent := if down then places - e else places + e
      (Binary64.ofScaled negative significand exponent).map .binary
    | none =>
      if significand ≠ 0 ∧ !down then none
      else (Binary64.ofScaled negative 0 0).map .binary

/-- A number without point and exponent whose digits fit into 64 bits. -/
def wholeValue (negative : Bool) (n : Nat) : Option Number :=
  if !negative then some (.whole n)
  else if n = 0 ∨ Nat.pow 2 63 < n then (Binary64.ofScaled true n 0).map .binary
  else some (.whole (-(n : Int)))

/-- The number that the digits mean; `none` when it is out of range. -/
def value? (n : Numeral) : Option Number :=
  let (significand, dropped) := absorb 0 n.wholeDigits
  match n.fraction with
  | some fraction =>
    let (significand, ignored) := absorb significand fraction
    let places : Int := dropped.length - ((fraction.length : Int) - ignored.length)
    scaledValue? n.negative significand places n.exponent
  | none =>
    if n.exponent.isNone ∧ dropped.isEmpty then wholeValue n.negative significand
    else scaledValue? n.negative significand dropped.length n.exponent

end Numeral

namespace Literal

/-- Whether a unit is the first half of a surrogate pair. -/
def isHighHalf (n : Nat) : Bool := 0xD800 ≤ n && n ≤ 0xDBFF

/-- Whether a unit is the second half of a surrogate pair. -/
def isLowHalf (n : Nat) : Bool := 0xDC00 ≤ n && n ≤ 0xDFFF

/-- The character that a surrogate pair names. -/
def pairChar (high low : Nat) : Char :=
  Char.ofNat (0x10000 + (high - 0xD800) * 0x400 + (low - 0xDC00))

end Literal

/-- A piece of a string: a character, or a unit of UTF-16 given by its number. -/
inductive Piece where
  | char (c : Char)
  | unit (n : Nat)
  deriving DecidableEq, Inhabited

/-- A string by its pieces. -/
abbrev Literal := List Piece

namespace Literal

/-- The characters that pieces name; none where half of a surrogate pair stands alone. -/
def chars? : Literal → Option (List Char)
  | [] => some []
  | .char c :: rest => (chars? rest).map (c :: ·)
  | .unit n :: .unit n' :: rest =>
    if isHighHalf n then
      if isLowHalf n' then (chars? rest).map (pairChar n n' :: ·) else none
    else if isLowHalf n then none
    else (chars? (.unit n' :: rest)).map (Char.ofNat n :: ·)
  | .unit n :: rest =>
    if isHighHalf n || isLowHalf n then none else (chars? rest).map (Char.ofNat n :: ·)

/-- The text that a string means. -/
def text? (l : Literal) : Option String := l.chars?.map String.ofList

/-- The characters of a string in which no character is given by its number. -/
def plainChars? (l : Literal) : Option (List Char) :=
  l.mapM fun
    | .char c => some c
    | .unit _ => none

end Literal

/-- A JSON document as it is written. -/
inductive JsonText where
  | null
  | bool (b : Bool)
  | number (n : Numeral)
  | string (l : Literal)
  | array (items : List JsonText)
  | object (members : List (Literal × JsonText))
  deriving Inhabited

namespace JsonText

/-- Puts a member where an earlier one of the same name stands, else at the end. -/
def putMember (k : String) (j : Json) : List (String × Json) → List (String × Json)
  | [] => [(k, j)]
  | m :: rest => if m.1 = k then (k, j) :: rest else m :: putMember k j rest

mutual

/-- The value that a document means: a repeated member keeps its first place and takes its last
value. -/
def value? : JsonText → Option Json
  | .null => some .null
  | .bool b => some (.bool b)
  | .number n => n.value?.map .number
  | .string l => l.text?.map .string
  | .array items => (itemValues? items).map .array
  | .object members => (memberValues? [] members).map .object

/-- The values of the items of an array. -/
def itemValues? : List JsonText → Option (List Json)
  | [] => some []
  | j :: rest => do
    let v ← value? j
    let vs ← itemValues? rest
    return v :: vs

/-- The values of the members of an object, put one after another into those before them. -/
def memberValues? (before : List (String × Json)) :
    List (Literal × JsonText) → Option (List (String × Json))
  | [] => some before
  | (k, j) :: rest => do
    let k ← k.text?
    let v ← value? j
    memberValues? (putMember k v before) rest

end

end JsonText

end Crossmap
