/-!
# Whole numbers in decimal

`natText` and `intText` write numbers without leading zeros. `Code` is the type of the codes of
value maps: whole numbers of 64 bits with a sign. `Code.ofDigits?` reads digits of any length and
accepts exactly the numbers in that range; `Code.read?` reads a code as it stands in a cell, with
an optional sign.
-/

namespace Crossmap

/-- The number that a list of decimal digits writes. -/
def digitsValue (ds : List Char) : Nat := Nat.ofDigitChars 10 ds 0

/-- A natural number in decimal digits. -/
def natText (n : Nat) : String := String.ofList (Nat.toDigits 10 n)

/-- A whole number in decimal digits, with `-` when it is negative. -/
def intText (i : Int) : String :=
  if i < 0 then "-" ++ natText i.natAbs else natText i.natAbs

/-- A code of a value map: a whole number of 64 bits. -/
abbrev Code := Int64

namespace Code

/-- The least number that is a code. -/
def least : Int := -Int.pow 2 63

/-- The greatest number that is a code. -/
def greatest : Int := Int.pow 2 63 - 1

/-- The code with a given value. -/
def ofInt? (i : Int) : Option Code :=
  if least ≤ i ∧ i ≤ greatest then some (Int64.ofInt i) else none

/-- The code in decimal digits. -/
def text (c : Code) : String := intText c.toInt

/-- The code that digits and a sign write. -/
def ofDigits? (negative : Bool) (digits : List Char) : Option Code :=
  ofInt? (if negative then -(digitsValue digits : Int) else digitsValue digits)

/-- The code that an unsigned part writes: at least one digit, and digits only. -/
def ofUnsigned? (negative : Bool) (digits : List Char) : Option Code :=
  if digits.isEmpty || !digits.all Char.isDigit then none else ofDigits? negative digits

/-- Reads a code as JSON writes whole numbers: without `+`, leading zeros and a negative zero. -/
def ofName? : List Char → Option Code
  | ['0'] => ofDigits? false ['0']
  | '-' :: c :: cs => if c = '0' then none else ofUnsigned? true (c :: cs)
  | c :: cs => if c = '0' then none else ofUnsigned? false (c :: cs)
  | [] => none

/-- Reads a code: an optional sign and digits. -/
def read? : List Char → Option Code
  | '+' :: digits => ofUnsigned? false digits
  | '-' :: digits => ofUnsigned? true digits
  | digits => ofUnsigned? false digits

end Code

end Crossmap
