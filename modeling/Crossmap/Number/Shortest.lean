import Crossmap.Number.Binary64
import Crossmap.Number.Decimal

/-!
# The shortest decimal text of a floating-point number

A number in `Binary64` is written with the fewest decimal digits that no other number of the
format is nearer to, and among those with the digits nearest to it. The search tries one digit,
two digits and so on, and looks for each count at the two neighbours of the number on that decimal
grid, in exact arithmetic.

`Binary64.text` decides the form: with exponent `e` of the first digit, from `-5` to `15` the
number is written with a point and at least one digit on each side of it, otherwise with one digit
before the point and an exponent that carries its sign.
-/

namespace Crossmap

namespace Binary64

/-- The numbers that round to one number: between two fractions over a common denominator, the
ends included or not. -/
structure Interval where
  low : Nat
  value : Nat
  high : Nat
  den : Nat
  /-- Whether the ends belong to the interval. -/
  closed : Bool

/-- The interval of a magnitude that is not zero. -/
def interval (m : Magnitude) : Interval :=
  let below := if m.significand = Nat.pow 2 52 ∧ -1074 < m.exponent then 1 else 2
  let unit := scale 1 4 m.exponent
  { low := (4 * m.significand - below) * unit.1
    value := 4 * m.significand * unit.1
    high := (4 * m.significand + 2) * unit.1
    den := unit.2
    closed := m.significand % 2 = 0 }

/-- Whether `c * 10 ^ k` lies in the interval. -/
def Interval.holds (i : Interval) (c : Nat) (k : Int) : Bool :=
  let n := if 0 ≤ k then c * Nat.pow 10 k.toNat * i.den else c * i.den
  let scaled (x : Nat) := if 0 ≤ k then x else x * Nat.pow 10 (-k).toNat
  if i.closed then scaled i.low ≤ n && n ≤ scaled i.high
  else scaled i.low < n && n < scaled i.high

/-- The least `n ≤ fuel + start` with `den ≤ num * 10 ^ n`, searched upwards. -/
def leadingZeros (num den : Nat) : Nat → Nat → Nat
  | 0, start => start
  | fuel + 1, start =>
    if den ≤ num * Nat.pow 10 start then start else leadingZeros num den fuel (start + 1)

/-- The exponent of the first decimal digit of `num / den`, which is not zero. -/
def decimalExponent (num den : Nat) : Int :=
  if den ≤ num then ((Nat.toDigits 10 (num / den)).length : Int) - 1
  else -(leadingZeros num den 400 1 : Int)

/-- Decimal digits and the exponent of the first of them. -/
structure Digits where
  /-- The digits, the first one not zero. -/
  digits : List Char
  /-- The power of ten at which the first digit stands. -/
  exponent : Int
  deriving DecidableEq, Inhabited

/-- The digits of `c * 10 ^ k` without the zeros at the end. -/
def Digits.ofScaled (c : Nat) (k : Int) : Digits :=
  let ds := Nat.toDigits 10 c
  { digits := (ds.reverse.dropWhile (· == '0')).reverse
    exponent := k + (ds.length : Int) - 1 }

/-- The digits nearest to the number among those of `count` digits that lie in its interval. -/
def Interval.candidate? (i : Interval) (first : Int) (count : Nat) : Option Digits :=
  let k := first - (count : Int) + 1
  let num := if 0 ≤ k then i.value else i.value * Nat.pow 10 (-k).toNat
  let den := if 0 ≤ k then i.den * Nat.pow 10 k.toNat else i.den
  let c := num / den
  let r := num % den
  let lower := i.holds c k
  let upper := i.holds (c + 1) k
  if lower && upper then
    let nearer := if 2 * r < den then c else if den < 2 * r then c + 1
      else if c % 2 = 0 then c else c + 1
    some (Digits.ofScaled nearer k)
  else if lower then some (Digits.ofScaled c k)
  else if upper then some (Digits.ofScaled (c + 1) k)
  else none

/-- The first candidate for a growing number of digits. -/
def Interval.search (i : Interval) (first : Int) : Nat → Nat → Digits
  | 0, count => (i.candidate? first count).getD default
  | fuel + 1, count => (i.candidate? first count).getD (i.search first fuel (count + 1))

/-- The shortest digits of a magnitude that is not zero; seventeen digits always suffice. -/
def shortest (m : Magnitude) : Digits :=
  let i := interval m
  i.search (decimalExponent i.value i.den) 16 1

/-- Digits with a point, as many zeros as the exponent asks for, and a digit on each side. -/
def Digits.positional (d : Digits) : List Char :=
  if d.exponent < 0 then
    '0' :: '.' :: List.replicate (-d.exponent - 1).toNat '0' ++ d.digits
  else
    let whole := d.exponent.toNat + 1
    let padded := d.digits ++ List.replicate (whole - d.digits.length) '0'
    let fraction := padded.drop whole
    padded.take whole ++ '.' :: (if fraction.isEmpty then ['0'] else fraction)

/-- Digits with one of them before the point, and the exponent with its sign. -/
def Digits.scientific (d : Digits) : List Char :=
  let mantissa := match d.digits with
    | first :: second :: rest => first :: '.' :: second :: rest
    | short => short
  let sign := if d.exponent < 0 then '-' else '+'
  mantissa ++ 'e' :: sign :: Nat.toDigits 10 d.exponent.natAbs

/-- The text of a finite number. -/
def text (x : Binary64) : String :=
  let m := magnitudeOf x.magnitudeBits
  let body :=
    if m.significand = 0 then ['0', '.', '0']
    else
      let d := shortest m
      if -5 ≤ d.exponent ∧ d.exponent ≤ 15 then d.positional else d.scientific
  String.ofList (if x.isNegative then '-' :: body else body)

end Binary64

end Crossmap
