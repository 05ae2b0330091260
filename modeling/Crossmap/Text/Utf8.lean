/-!
# Texts as bytes

Texts are kept in files as UTF-8. `decode` reads bytes back into characters and, where that is
impossible, says how many bytes before the first wrong sequence were right.
-/

namespace Crossmap.Text.Utf8

/-- The bytes that write a list of characters. -/
def encode (cs : List Char) : List UInt8 := cs.flatMap String.utf8EncodeChar

/-- The bytes that write a text. -/
def bytes (s : String) : List UInt8 := encode s.toList

/-- The character written at the front of the bytes. -/
def firstChar? (bs : List UInt8) : Option Char := (bs.take 4).toByteArray.utf8DecodeChar? 0

/-- The characters that the bytes write; where a sequence writes none, its place. `done` counts
the bytes read before. -/
def decodeFrom (done : Nat) (bs : List UInt8) : Except Nat (List Char) :=
  match bs with
  | [] => .ok []
  | b :: rest =>
    match firstChar? (b :: rest) with
    | none => .error done
    | some c =>
      (decodeFrom (done + c.utf8Size) ((b :: rest).drop c.utf8Size)).map (c :: ·)
termination_by bs.length
decreasing_by
  have := Char.utf8Size_pos c
  simp only [List.length_drop, List.length_cons]
  omega

/-- The text that the bytes write, or the place of the first wrong sequence. -/
def decode (bs : List UInt8) : Except Nat String :=
  (decodeFrom 0 bs).map String.ofList

end Crossmap.Text.Utf8
