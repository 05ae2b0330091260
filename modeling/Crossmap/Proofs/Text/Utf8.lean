import Crossmap.Text.Utf8

/-! # Texts from their bytes

The bytes that write a text are read back as this text (`decode_bytes`). Its first character is read
from their front, whatever follows them (`firstChar?_bytes_append`).
-/

namespace Crossmap.Text.Utf8

/-- The bytes of a character are read as that character, whatever follows. -/
theorem firstChar?_append (c : Char) (bs : List UInt8) :
    firstChar? (String.utf8EncodeChar c ++ bs) = some c := by
  have short : (String.utf8EncodeChar c).length ≤ 4 := by
    rw [String.length_utf8EncodeChar]
    exact c.utf8Size_le_four
  rw [firstChar?, List.take_append, List.take_of_length_le short, List.toByteArray_append]
  exact ByteArray.utf8DecodeChar?_utf8EncodeChar_append

/-- The bytes of a text begin with those of its first character. -/
theorem bytes_of_toList_eq_cons {s : String} {c : Char} {cs : List Char}
    (chars : s.toList = c :: cs) : bytes s = String.utf8EncodeChar c ++ encode cs := by
  rw [bytes, chars]
  rfl

/-- A text begins with its first character in bytes, too. -/
theorem firstChar?_bytes_append {s : String} {c : Char} (first : s.toList.head? = some c)
    (bs : List UInt8) : firstChar? (bytes s ++ bs) = some c := by
  obtain ⟨cs, chars⟩ := List.head?_eq_some_iff.mp first
  rw [bytes_of_toList_eq_cons chars, List.append_assoc, firstChar?_append]

/-- The first byte of a text begins a character. -/
theorem isUTF8FirstByte_of_bytes_append {s : String} {c : Char} (first : s.toList.head? = some c)
    {b : UInt8} {bs rest : List UInt8} (written : bytes s ++ bs = b :: rest) :
    b.IsUTF8FirstByte := by
  obtain ⟨cs, chars⟩ := List.head?_eq_some_iff.mp first
  have lead := @UInt8.isUTF8FirstByte_getElem_zero_utf8EncodeChar c
  rw [bytes_of_toList_eq_cons chars, List.append_assoc] at written
  cases all : String.utf8EncodeChar c with
  | nil => exact absurd all String.utf8EncodeChar_ne_nil
  | cons b' more =>
      rw [all] at written
      obtain ⟨rfl, -⟩ := List.cons.inj written
      simp only [all] at lead
      exact lead

/-- What was encoded is decoded again, wherever it starts. -/
theorem decodeFrom_encode (cs : List Char) (done : Nat) : decodeFrom done (encode cs) = .ok cs := by
  induction cs generalizing done with
  | nil => rw [encode, List.flatMap_nil, decodeFrom]
  | cons c cs ih =>
      have parts : encode (c :: cs) = String.utf8EncodeChar c ++ encode cs := rfl
      have first := firstChar?_append c (encode cs)
      have further : (String.utf8EncodeChar c ++ encode cs).drop c.utf8Size = encode cs :=
        List.drop_left' (String.length_utf8EncodeChar c)
      rw [parts]
      cases all : String.utf8EncodeChar c ++ encode cs with
      | nil => exact absurd (List.append_eq_nil_iff.mp all).1 String.utf8EncodeChar_ne_nil
      | cons b rest =>
          rw [all] at first further
          simp only [decodeFrom, first, further, ih]
          rfl

/-- **Texts are read back from their bytes.** -/
theorem decode_bytes (s : String) : decode (bytes s) = .ok s := by
  rw [decode, bytes, decodeFrom_encode]
  exact congrArg Except.ok s.ofList_toList

end Crossmap.Text.Utf8
