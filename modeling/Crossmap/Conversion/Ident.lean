import Crossmap.Number.Decimal

/-!
# Sources of idents

Records of declarations without an ident column get an ident from a source. `NumberedIdents` counts
under a stem; `RandomIdents` makes random universally unique identifiers out of a stream of words,
of which it needs two for each.
-/

namespace Crossmap

/-- States that give one ident after another. -/
class IdentSource (γ : Type) where
  /-- The next ident, and the state after it. -/
  next : γ → String × γ

/-- Idents that are numbered from one under a stem. -/
structure NumberedIdents where
  stem : String
  /-- How many idents have been given. A session draws fewer than `2 ^ 64 - 1` of them, so that the
  number of the last one fits in a word. -/
  given : Nat
  deriving DecidableEq, Inhabited

namespace NumberedIdents

/-- No ident has been given. -/
def fresh (stem : String) : NumberedIdents := ⟨stem, 0⟩

instance : IdentSource NumberedIdents where
  next s := (s.stem ++ natText (s.given + 1), { s with given := s.given + 1 })

/-- The first idents under a stem. -/
def first (stem : String) (n : Nat) : List String :=
  (List.range n).map fun i => (IdentSource.next (NumberedIdents.mk stem i)).1

end NumberedIdents

/-- Idents made of random words. -/
structure RandomIdents where
  seed : UInt64
  deriving DecidableEq, Inhabited

namespace RandomIdents

/-- Spreads every bit of a word over the whole word. -/
def scatter (w : UInt64) : UInt64 :=
  let w := (w ^^^ (w >>> 30)) * 0xBF58476D1CE4E5B9
  let w := (w ^^^ (w >>> 27)) * 0x94D049BB133111EB
  w ^^^ (w >>> 31)

/-- The next random word. Seeds run through all words before one comes again. -/
def word (s : RandomIdents) : UInt64 × RandomIdents :=
  let seed := s.seed + 0x9E3779B97F4A7C15
  (scatter seed, ⟨seed⟩)

/-- The lowest digits of a number in base sixteen. -/
def hexDigits (count n : Nat) : List Char :=
  (List.range count).reverse.map fun i => Nat.digitChar (n / Nat.pow 16 i % 16)

/-- An identifier of version four with 122 bits taken from two words. -/
def identOfWords (high low : UInt64) : String :=
  let a := high.toNat
  let b := low.toNat
  String.ofList (hexDigits 8 (a / Nat.pow 2 32) ++ '-' :: hexDigits 4 (a / Nat.pow 2 16)
    ++ '-' :: '4' :: hexDigits 3 a ++ '-' :: Nat.digitChar (8 + b / Nat.pow 2 60 % 4)
    :: hexDigits 3 (b / Nat.pow 2 48) ++ '-' :: hexDigits 12 b)

instance : IdentSource RandomIdents where
  next s :=
    let (high, s) := s.word
    let (low, s) := s.word
    (identOfWords high low, s)

end RandomIdents

end Crossmap
