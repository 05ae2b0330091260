import Crossmap.Proofs.Text.Split
import Mathlib.Data.List.Basic

/-! # Lines

A text is a line if it holds no line break, and cutting a text at its line breaks gives lines
(`isLine_of_mem_lines`). Texts that are ended with a line break each are cut into the lines of the
texts, one after another, and an empty one (`lines_endLines`): they come out as they are exactly if
all of them are lines (`lines_endLines_eq_iff`).
-/

namespace Crossmap.Text

/-- Whether a text holds no line break. -/
def IsLine (s : String) : Prop := '\n' ∉ s.toList

instance : DecidablePred IsLine := fun s => inferInstanceAs (Decidable ('\n' ∉ s.toList))

/-- The lines of a text: its pieces between line breaks. -/
def lines (s : String) : List String := (splitAt '\n' s.toList).map String.ofList

/-- Texts, each ended with a line break. -/
def endLines (ss : List String) : String := String.join (ss.map (· ++ "\n"))

variable {s t : String} {ss : List String}

/-- Two texts make up one line exactly if neither of them has a line break. -/
theorem isLine_append_iff : IsLine (s ++ t) ↔ IsLine s ∧ IsLine t := by
  rw [IsLine, String.toList_append, List.mem_append, not_or]
  rfl

/-- A text without line breaks is its only line. -/
theorem lines_of_isLine (line : IsLine s) : lines s = [s] := by
  rw [lines, splitAt_of_notMem line, List.map_singleton, String.ofList_toList]

/-- No line has a line break. -/
theorem isLine_of_mem_lines (member : t ∈ lines s) : IsLine t := by
  obtain ⟨piece, inPieces, rfl⟩ := List.mem_map.mp member
  rw [IsLine, String.toList_ofList]
  exact notMem_of_mem_splitAt inPieces

/-- The lines of two texts with a line break between them are the lines of both. -/
theorem lines_append (s t : String) : lines (s ++ "\n" ++ t) = lines s ++ lines t := by
  have chars : (s ++ "\n" ++ t).toList = s.toList ++ '\n' :: t.toList := by simp
  rw [lines, chars, splitAt_append, List.map_append]
  rfl

/-- The first text comes first, with an end of line. -/
theorem endLines_cons (s : String) (ss : List String) :
    endLines (s :: ss) = s ++ "\n" ++ endLines ss := by
  rw [endLines, List.map_cons, String.join_cons]
  rfl

/-- Texts that are ended with a line break are cut into their lines, and nothing comes behind. -/
theorem lines_endLines (ss : List String) : lines (endLines ss) = ss.flatMap lines ++ [""] := by
  induction ss with
  | nil => rfl
  | cons s rest ih => rw [endLines_cons, lines_append, ih, List.flatMap_cons, List.append_assoc]

/-- **Texts are lines exactly if they come back as lines.** -/
theorem lines_endLines_eq_iff : lines (endLines ss) = ss ++ [""] ↔ ∀ s ∈ ss, IsLine s := by
  constructor
  · intro same s member
    apply isLine_of_mem_lines (s := endLines ss)
    rw [same]
    exact List.mem_append_left _ member
  · intro all
    have single : ss.flatMap lines = ss.flatMap fun s => [s] :=
      List.flatMap_congr fun s member => lines_of_isLine (all s member)
    rw [lines_endLines, single, List.flatMap_singleton']

end Crossmap.Text
