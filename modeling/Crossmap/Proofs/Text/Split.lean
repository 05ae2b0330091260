import Crossmap.Text.Split

/-! # Cutting texts and joining their pieces

A text cut at a separator falls into the pieces before and behind any one of them
(`splitAt_append`), and the segments of a dotted name joined by dots are the name
(`joinWith_segments`). The last of them is what stands behind the last dot (`lastSegment_eq_iff`). A
text cut where a class of characters ends falls into what was put together there (`span_append`).
-/

namespace Crossmap.Text

/-- A text without the separator is one piece. -/
theorem splitAt_of_notMem {sep : Char} {cs : List Char} (absent : sep ∉ cs) :
    splitAt sep cs = [cs] := by
  induction cs with
  | nil => rfl
  | cons c cs ih =>
      rw [List.mem_cons, not_or] at absent
      rw [splitAt, if_neg (Ne.symm absent.1), ih absent.2]

/-- There is always a piece. -/
theorem splitAt_ne_nil (sep : Char) (cs : List Char) : splitAt sep cs ≠ [] := by
  cases cs with
  | nil => exact nofun
  | cons c cs =>
      rw [splitAt]
      split
      · exact nofun
      · split
        · exact nofun
        · exact nofun

/-- A separator parts the pieces before it from those behind it. -/
theorem splitAt_append (sep : Char) (cs ds : List Char) :
    splitAt sep (cs ++ sep :: ds) = splitAt sep cs ++ splitAt sep ds := by
  induction cs with
  | nil =>
      rw [List.nil_append, splitAt.eq_2, if_pos rfl]
      rfl
  | cons c cs ih =>
      rw [List.cons_append, splitAt.eq_2, splitAt.eq_2 sep c cs, ih]
      by_cases isSep : c = sep
      · rw [if_pos isSep, if_pos isSep, List.cons_append]
      · rw [if_neg isSep, if_neg isSep]
        obtain ⟨piece, pieces, cut⟩ := List.exists_cons_of_ne_nil (splitAt_ne_nil sep cs)
        rw [cut, List.cons_append]
        rfl

/-- The first separator ends the first piece. -/
theorem splitAt_append_cons {sep : Char} {cs : List Char} (absent : sep ∉ cs) (ds : List Char) :
    splitAt sep (cs ++ sep :: ds) = cs :: splitAt sep ds := by
  rw [splitAt_append, splitAt_of_notMem absent, List.singleton_append]

/-- No piece contains the separator. -/
theorem notMem_of_mem_splitAt {sep : Char} {cs piece : List Char}
    (member : piece ∈ splitAt sep cs) : sep ∉ piece := by
  induction cs generalizing piece with
  | nil =>
      obtain rfl := List.mem_singleton.mp member
      exact List.not_mem_nil
  | cons c cs ih =>
      rw [splitAt] at member
      split at member
      · rcases List.mem_cons.mp member with rfl | member
        · exact List.not_mem_nil
        · exact ih member
      · next other =>
        cases pieces : splitAt sep cs with
        | nil => exact (splitAt_ne_nil sep cs pieces).elim
        | cons first rest =>
            rw [pieces] at ih member
            rcases List.mem_cons.mp member with rfl | member
            · intro inPiece
              rcases List.mem_cons.mp inPiece with rfl | inFirst
              · exact other rfl
              · exact ih List.mem_cons_self inFirst
            · exact ih (List.mem_cons_of_mem _ member)

/-- Every other character of a text stands in one of its pieces. -/
theorem exists_mem_splitAt {sep c : Char} {cs : List Char} (member : c ∈ cs) (other : c ≠ sep) :
    ∃ piece ∈ splitAt sep cs, c ∈ piece := by
  obtain ⟨before, after, rfl⟩ := List.append_of_mem member
  clear member
  induction before with
  | nil =>
      rw [List.nil_append, splitAt, if_neg other]
      cases pieces : splitAt sep after with
      | nil => exact (splitAt_ne_nil sep after pieces).elim
      | cons first rest => exact ⟨c :: first, List.mem_cons_self, List.mem_cons_self⟩
  | cons d before ih =>
      obtain ⟨piece, inPieces, inPiece⟩ := ih
      rw [List.cons_append, splitAt]
      split
      · exact ⟨piece, List.mem_cons_of_mem _ inPieces, inPiece⟩
      · cases pieces : splitAt sep (before ++ c :: after) with
        | nil => exact (splitAt_ne_nil sep _ pieces).elim
        | cons first rest =>
            rw [pieces] at inPieces
            rcases List.mem_cons.mp inPieces with rfl | inRest
            · exact ⟨d :: piece, List.mem_cons_self, List.mem_cons_of_mem _ inPiece⟩
            · exact ⟨piece, List.mem_cons_of_mem _ inRest, inPiece⟩

/-- The separator stands between the first text and the others. -/
theorem joinWith_cons {sep s : String} {rest : List String} (more : rest ≠ []) :
    joinWith sep (s :: rest) = s ++ sep ++ joinWith sep rest := by
  cases rest with
  | nil => exact (more rfl).elim
  | cons => rfl

/-- The segments of a name with dots between them are the name. -/
theorem joinWith_segments (name : String) : joinWith "." (segments name) = name := by
  have chars (cs : List Char) :
      joinWith "." ((splitAt '.' cs).map String.ofList) = String.ofList cs := by
    induction cs with
    | nil => rfl
    | cons c cs ih =>
        have more : (splitAt '.' cs).map String.ofList ≠ [] :=
          mt List.map_eq_nil_iff.mp (splitAt_ne_nil '.' cs)
        rw [splitAt]
        split
        case isTrue same =>
          rw [List.map_cons, joinWith_cons more, ih, same]
          apply String.toList_inj.mp
          simp
        case isFalse =>
          cases pieces : splitAt '.' cs with
          | nil => exact (splitAt_ne_nil '.' cs pieces).elim
          | cons piece further =>
              rw [pieces] at ih
              have chars := String.toList_inj.mpr ih
              apply String.toList_inj.mp
              cases further with
              | nil =>
                  simp only [List.map_cons, List.map_nil, joinWith, String.toList_ofList] at chars ⊢
                  rw [chars]
              | cons =>
                  simp only [List.map_cons, joinWith, String.toList_append,
                    String.toList_ofList] at chars ⊢
                  rw [← chars]
                  rfl
  rw [segments, chars, String.ofList_toList]

/-- Whether a text is the last segment of a dotted name: it has no dot, and stands alone or behind
one. -/
def IsLastSegment (segment name : String) : Prop :=
  '.' ∉ segment.toList ∧ (name = segment ∨ ∃ front, name = front ++ "." ++ segment)

/-- Every name has a last segment. -/
theorem exists_isLastSegment (name : String) : ∃ segment, IsLastSegment segment name := by
  by_cases dotted : '.' ∈ name.toList
  · obtain ⟨behind, front, reversed, undotted⟩ :=
      List.eq_append_cons_of_mem (List.mem_reverse.mpr dotted)
    refine ⟨String.ofList behind.reverse, by simpa using undotted, .inr ⟨.ofList front.reverse, ?_⟩⟩
    apply String.toList_inj.mp
    rw [← List.reverse_inj, reversed]
    simp
  · exact ⟨name, dotted, .inl rfl⟩

/-- The last segment of a name is unique, and is the one that is computed. -/
theorem IsLastSegment.lastSegment {segment name : String} (is : IsLastSegment segment name) :
    lastSegment name = segment := by
  obtain ⟨undotted, rfl | ⟨front, rfl⟩⟩ := is
  · rw [Text.lastSegment, segments, splitAt_of_notMem undotted, List.map_singleton,
      String.ofList_toList]
    rfl
  · have cut : (front ++ "." ++ segment).toList = front.toList ++ '.' :: segment.toList := by simp
    rw [Text.lastSegment, segments, cut, splitAt_append, splitAt_of_notMem undotted,
      List.map_append, List.map_singleton, String.ofList_toList, List.getLastD_concat]

/-- The last segment of a dotted name is the only text that is one. -/
theorem lastSegment_eq_iff {segment name : String} :
    lastSegment name = segment ↔ IsLastSegment segment name := by
  refine ⟨?_, IsLastSegment.lastSegment⟩
  rintro rfl
  obtain ⟨segment, is⟩ := exists_isLastSegment name
  rwa [is.lastSegment]

/-- The characters of a class at the front of a text, up to one that is not of the class. -/
theorem span_append {p : Char → Bool} {cs rest : List Char} (inClass : ∀ c ∈ cs, p c = true)
    (stops : ∀ c, rest.head? = some c → p c = false) :
    (cs ++ rest).takeWhile p = cs ∧ (cs ++ rest).dropWhile p = rest := by
  rw [List.takeWhile_append_of_pos inClass, List.dropWhile_append_of_pos inClass]
  cases rest with
  | nil => simp
  | cons c rest => simp [stops c rfl]

end Crossmap.Text
