/-!
# Texts cut at a separator

`splitAt sep` cuts a list of characters at every separator, so that a list with `n` separators
gives `n + 1` pieces; `joinWith` puts pieces together again. Dotted names are read with them: a
name's segments are its pieces at `.`, and `lastSegment` is the piece after the last dot.
-/

namespace Crossmap.Text

/-- The pieces of a text between the separators. -/
def splitAt (sep : Char) : List Char → List (List Char)
  | [] => [[]]
  | c :: cs =>
    if c = sep then [] :: splitAt sep cs
    else match splitAt sep cs with
      | [] => [[c]]
      | piece :: pieces => (c :: piece) :: pieces

/-- Texts written one after another with a separator between them. -/
def joinWith (sep : String) : List String → String
  | [] => ""
  | [s] => s
  | s :: rest => s ++ sep ++ joinWith sep rest

/-- The segments of a dotted name. -/
def segments (name : String) : List String :=
  (splitAt '.' name.toList).map String.ofList

/-- The part of a dotted name after its last dot; the whole name when it has none. -/
def lastSegment (name : String) : String :=
  (segments name).getLastD name

/-- Whether a text contains a character. -/
def hasChar (c : Char) (s : String) : Bool := s.toList.contains c

/-- Whether a piece of text occurs in a list of characters. -/
def occursIn (piece : List Char) : List Char → Bool
  | [] => piece.isEmpty
  | c :: cs => piece.isPrefixOf (c :: cs) || occursIn piece cs

/-- Whether two texts differ at most in the case of ASCII letters. -/
def sameIgnoringCase (s t : String) : Bool :=
  s.toList.map Char.toLower == t.toList.map Char.toLower

end Crossmap.Text
