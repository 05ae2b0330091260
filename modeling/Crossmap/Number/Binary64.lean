/-!
# Binary floating point of 64 bits

A finite number is `m · 2 ^ e` with `m < 2 ^ 53` and `e ≥ -1074`. Arithmetic here is exact on such
pairs and then rounded once, to the nearest number and to the even one of two that are equally
near, so nothing depends on the machine. Powers are `Nat.pow`, which means the same wherever this is
imported.

`Binary64.ofScaled` is the reading of decimal text: the significand is rounded first and the power
of ten is applied afterwards, in one multiplication or division and one more division for every
308 places beyond the range of a single power. Its result can therefore differ in the last bit
from the number nearest to the text.
-/

namespace Crossmap

/-- A number in the binary format of 64 bits. -/
structure Binary64 where
  /-- Sign, exponent and significand, as the format lays them out. -/
  bits : UInt64
  deriving DecidableEq, Inhabited

namespace Binary64

/-- The size of a number without its sign: `significand * 2 ^ exponent`. -/
structure Magnitude where
  /-- The whole number that the significand writes. -/
  significand : Nat
  /-- The power of two by which it is scaled. -/
  exponent : Int
  deriving DecidableEq, Inhabited

/-- The bits of a magnitude, the least exponent included, as a number. -/
def infinityBits : Nat := 0x7FF0000000000000

/-- The bit that carries the sign. -/
def signBit : Nat := 0x8000000000000000

/-- Whether the number has a minus sign. -/
def isNegative (x : Binary64) : Bool := signBit ≤ x.bits.toNat

/-- The number of a magnitude's bits, without sign. -/
def magnitudeBits (x : Binary64) : Nat := x.bits.toNat % signBit

/-- The magnitude that bits without sign stand for. -/
def magnitudeOf (bits : Nat) : Magnitude :=
  let biased : Nat := bits / Nat.pow 2 52
  let fraction : Nat := bits % Nat.pow 2 52
  if biased = 0 then ⟨fraction, -1074⟩ else ⟨Nat.pow 2 52 + fraction, (biased : Int) - 1075⟩

/-- The nearest whole number to `num / den`, the even one of two. -/
def roundHalfEven (num den : Nat) : Nat :=
  let q := num / den
  let r := num % den
  if 2 * r < den then q
  else if den < 2 * r then q + 1
  else if q % 2 = 0 then q else q + 1

/-- A fraction scaled by a power of two: numerator and denominator of `num / den * 2 ^ k`. -/
def scale (num den : Nat) (k : Int) : Nat × Nat :=
  if 0 ≤ k then (num * Nat.pow 2 k.toNat, den) else (num, den * Nat.pow 2 (-k).toNat)

/-- The exponent at which `num / den` has a significand of 53 bits, or the least exponent. -/
def exponentOf (num den : Nat) : Int :=
  let guess : Int := (num.log2 : Int) - (den.log2 : Int) - 52
  let scaled := scale num den (-guess)
  let exact := if scaled.1 < scaled.2 * Nat.pow 2 52 then guess - 1 else guess
  max exact (-1074)

/-- The bits of the number nearest to `num / den`; those of infinity when it is too large. -/
def nearestBits (num den : Nat) : Nat :=
  if num = 0 then 0
  else
    let e := exponentOf num den
    let scaled := scale num den (-e)
    min infinityBits ((e + 1074).toNat * Nat.pow 2 52 + roundHalfEven scaled.1 scaled.2)

/-- The magnitude as a fraction. -/
def Magnitude.ratio (m : Magnitude) : Nat × Nat := scale m.significand 1 m.exponent

/-- The bits of the product of two magnitudes. -/
def mulBits (x y : Nat) : Nat :=
  let a := (magnitudeOf x).ratio
  let b := (magnitudeOf y).ratio
  nearestBits (a.1 * b.1) (a.2 * b.2)

/-- The bits of the quotient of two magnitudes. -/
def divBits (x y : Nat) : Nat :=
  let a := (magnitudeOf x).ratio
  let b := (magnitudeOf y).ratio
  nearestBits (a.1 * b.2) (a.2 * b.1)

/-- The bits of the number nearest to a power of ten. -/
def powerOfTenBits (k : Nat) : Nat := nearestBits (Nat.pow 10 k) 1

/-- Divides by `10 ^ places`, at most 308 places at a time. -/
def shrink (bits : Nat) (places : Nat) : Nat :=
  if bits = 0 then 0
  else if places ≤ 308 then divBits bits (powerOfTenBits places)
  else shrink (divBits bits (powerOfTenBits 308)) (places - 308)
termination_by places

/-- The bits for `significand * 10 ^ exponent`; `none` when that is out of range. -/
def scaledBits? (significand : Nat) (exponent : Int) : Option Nat :=
  let bits := nearestBits significand 1
  if 0 ≤ exponent then
    if exponent ≤ 308 then
      let product := mulBits bits (powerOfTenBits exponent.toNat)
      if product = infinityBits then none else some product
    else if significand = 0 then some 0 else none
  else some (shrink bits (-exponent).toNat)

/-- The number with a sign and the bits of its magnitude. -/
def ofBits (negative : Bool) (bits : Nat) : Binary64 :=
  ⟨UInt64.ofNat (if negative then signBit + bits else bits)⟩

/-- The number for `significand * 10 ^ exponent` with a sign; `none` when it is out of range. -/
def ofScaled (negative : Bool) (significand : Nat) (exponent : Int) : Option Binary64 :=
  (scaledBits? significand exponent).map (ofBits negative)

/-! ## Range -/

/-- The least number for which the nearest one is infinite. -/
def overflowBound : Nat := Nat.pow 2 1024 - Nat.pow 2 970

/-- Whether the number nearest to `significand * 10 ^ exponent` is infinite. The count of digits
decides unless it is that of the bound, so that no large power is ever needed. -/
def overflows (significand : Nat) (exponent : Int) : Bool :=
  let places : Int := (Nat.toDigits 10 significand).length + exponent
  if significand = 0 || places < 309 then false
  else if 309 < places then true
  else if 0 ≤ exponent then overflowBound ≤ significand * Nat.pow 10 exponent.toNat
  else overflowBound * Nat.pow 10 (-exponent).toNat ≤ significand

end Binary64

end Crossmap
