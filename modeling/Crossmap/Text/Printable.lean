import Crossmap.Text.Unseen

/-!
# Characters in messages

A character that shows nothing of its own is written in a message by its number.
-/

namespace Crossmap.Text

/-- A character beyond ASCII in single quotes. -/
def quotedChar (c : Char) : String :=
  if isUnseen c then
    String.ofList ("'\\u\x7b".toList ++ Nat.toDigits 16 c.toNat ++ "\x7d'".toList)
  else "'" ++ c.toString ++ "'"

end Crossmap.Text
