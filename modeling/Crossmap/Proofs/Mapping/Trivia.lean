import Crossmap.Proofs.Mapping.Lexing

/-! # What stands between lexemes

`Filler` says what trivia is, without a reader: blanks, comments up to the end of their line and
comments between delimiters, in any number and order. `LastFiller` is trivia at the end of a text,
where a comment may go on without a line break. What `gap` splits off the front of a text is trivia
in this sense (`filler_gap`), and trivia is split off as a whole (`gap_append_of_filler`).
-/

namespace Crossmap.Mapping

/-- Trivia with something after it. -/
inductive Filler : List Char → Prop
  | nil : Filler []
  | blank {c : Char} {cs : List Char} (isBlank : Text.isBlank c = true) (further : Filler cs) :
      Filler (c :: cs)
  | line {comment cs : List Char} (oneLine : '\n' ∉ comment) (further : Filler cs) :
      Filler ('!' :: '!' :: (comment ++ '\n' :: cs))
  | block {comment cs : List Char} (noEnd : ¬ ['*', '/'] <:+: comment) (further : Filler cs) :
      Filler ('/' :: '*' :: (comment ++ '*' :: '/' :: cs))

/-- Trivia at the end of a text. -/
inductive LastFiller : List Char → Prop
  | closed {cs : List Char} (filler : Filler cs) : LastFiller cs
  | line {cs comment : List Char} (filler : Filler cs) (oneLine : '\n' ∉ comment) :
      LastFiller (cs ++ '!' :: '!' :: comment)

variable {cs rest text blank comment : List Char}

/-- Trivia after trivia is trivia. -/
theorem Filler.append {first second : List Char} (left : Filler first) (right : Filler second) :
    Filler (first ++ second) := by
  induction left with
  | nil => exact right
  | blank isBlank _ ih => exact .blank isBlank ih
  | line oneLine _ ih =>
      rw [List.cons_append, List.cons_append, List.append_assoc]
      exact .line oneLine ih
  | block noEnd _ ih =>
      rw [List.cons_append, List.cons_append, List.append_assoc]
      exact .block noEnd ih

/-- Trivia before the trivia that ends a text ends the text as well. -/
theorem LastFiller.append {first second : List Char} (left : Filler first)
    (right : LastFiller second) : LastFiller (first ++ second) := by
  cases right with
  | closed filler => exact .closed (left.append filler)
  | line filler oneLine =>
      rw [← List.append_assoc]
      exact .line (left.append filler) oneLine

/-! ## Comments -/

/-- A comment between delimiters ends at the first end delimiter. -/
theorem commentBody?_append_end (noEnd : ¬ ['*', '/'] <:+: comment) (rest : List Char) :
    commentBody? (comment ++ '*' :: '/' :: rest) = some (comment ++ ['*', '/'], rest) := by
  induction comment with
  | nil => rfl
  | cons c comment ih =>
      have inner := ih fun ends => noEnd (List.infix_cons ends)
      rw [List.cons_append, commentBody?, inner]
      · rfl
      · rintro ds rfl same
        cases comment with
        | nil => exact absurd (List.cons.inj same).1 (by decide)
        | cons d comment =>
            obtain ⟨rfl, -⟩ := List.cons.inj same
            exact noEnd ⟨[], comment, rfl⟩

/-- A comment that is closed has no end of comment before its own. -/
theorem exists_of_commentBody? {body : List Char} (closed : commentBody? cs = some (body, rest)) :
    ∃ comment, body = comment ++ ['*', '/'] ∧ ¬ ['*', '/'] <:+: comment := by
  have whole := commentBody?_append closed
  fun_induction commentBody? cs generalizing body with
  | case1 => cases closed
  | case2 cs =>
      obtain ⟨rfl, rfl⟩ := Prod.mk.inj (Option.some.inj closed)
      exact ⟨[], rfl, by simp⟩
  | case3 c cs notEnd ih =>
      obtain ⟨⟨inner, _⟩, found, same⟩ := Option.map_eq_some_iff.mp closed
      obtain ⟨rfl, rfl⟩ := Prod.mk.inj same
      obtain ⟨comment, rfl, noEnd⟩ := ih found (commentBody?_append found)
      refine ⟨c :: comment, rfl, fun ends => ?_⟩
      rcases List.infix_cons_iff.mp ends with ⟨after, front⟩ | further
      · -- The end would begin with `c`, so that it would be the one that the reader found first.
        obtain ⟨rfl, rfl⟩ := List.cons.inj front
        obtain ⟨-, tail⟩ := List.cons.inj whole
        exact notEnd _ rfl tail.symm
      · exact noEnd further

/-- A comment on a line is taken up to the line break. -/
theorem trivia_line (oneLine : '\n' ∉ comment) (rest : List Char) :
    trivia ('!' :: '!' :: (comment ++ '\n' :: rest)) =
      .piece ('!' :: '!' :: comment) ('\n' :: rest) := by
  obtain ⟨taken, left⟩ := @Text.span_append (· ≠ '\n') comment ('\n' :: rest)
    (fun c member => decide_eq_true fun same => oneLine (same ▸ member)) (by simp)
  rw [trivia, lineRest, afterLine, taken, left]

/-- A comment on the last line is taken up to the end of the text. -/
theorem trivia_lastLine (oneLine : '\n' ∉ comment) :
    trivia ('!' :: '!' :: comment) = .piece ('!' :: '!' :: comment) [] := by
  obtain ⟨taken, left⟩ := @Text.span_append (· ≠ '\n') comment []
    (fun c member => decide_eq_true fun same => oneLine (same ▸ member)) (by simp)
  rw [List.append_nil] at taken left
  rw [trivia, lineRest, afterLine, taken, left]

/-- A comment in brackets is taken up to the first end of comment. -/
theorem trivia_block (noEnd : ¬ ['*', '/'] <:+: comment) (rest : List Char) :
    trivia ('/' :: '*' :: (comment ++ '*' :: '/' :: rest)) =
      .piece ('/' :: '*' :: (comment ++ ['*', '/'])) rest := by
  rw [trivia, commentBody?_append_end noEnd]

/-! ## Trivia is split off as a whole -/

/-- **Trivia is split off the front of a text** with what trivia follows it. -/
theorem gap_append_of_filler (filler : Filler blank) (cs : List Char) :
    gap (blank ++ cs) = (blank ++ (gap cs).1, (gap cs).2) := by
  induction filler with
  | nil => rfl
  | blank isBlank _ ih =>
      rw [List.cons_append, gap_of_trivia_piece (trivia_cons_of_isBlank isBlank _), ih]
      rfl
  | @line comment blank oneLine _ ih =>
      have whole : '!' :: '!' :: (comment ++ '\n' :: blank) ++ cs =
          '!' :: '!' :: (comment ++ '\n' :: (blank ++ cs)) := by simp
      rw [whole, gap_of_trivia_piece (trivia_line oneLine _),
        gap_of_trivia_piece (trivia_cons_of_isBlank (by decide) _), ih]
      simp
  | @block comment blank noEnd _ ih =>
      have whole : '/' :: '*' :: (comment ++ '*' :: '/' :: blank) ++ cs =
          '/' :: '*' :: (comment ++ '*' :: '/' :: (blank ++ cs)) := by simp
      rw [whole, gap_of_trivia_piece (trivia_block noEnd _), ih]
      simp

theorem gap_nil : gap [] = ([], some []) := gap_of_trivia_none rfl

/-- Trivia at the end of a text is split off to the end. -/
theorem gap_of_lastFiller (last : LastFiller blank) : gap blank = (blank, some []) := by
  cases last with
  | closed filler =>
      have whole := gap_append_of_filler filler []
      simpa only [gap_nil, List.append_nil] using whole
  | line filler oneLine =>
      rw [gap_append_of_filler filler, gap_of_trivia_piece (trivia_lastLine oneLine), gap_nil,
        List.append_nil]

/-! ## What is split off is trivia -/

/-- A piece of trivia, together with the line break where it is a comment to the end of its line. -/
theorem filler_of_trivia (piece : trivia cs = .piece text rest) :
    Filler text ∨ ∃ comment, text = '!' :: '!' :: comment ∧ '\n' ∉ comment ∧
      ∀ c, rest.head? = some c → c = '\n' := by
  unfold trivia at piece
  split at piece
  · next cs =>
      obtain ⟨rfl, rfl⟩ := Trivia.piece.inj piece
      refine .inr ⟨lineRest cs, rfl, ?_, ?_⟩
      · intro member
        have inClass := List.all_eq_true.mp (List.all_takeWhile (p := (· ≠ '\n')) (l := cs)) _ member
        exact of_decide_eq_true inClass rfl
      · intro c next
        have outside := head?_dropWhile next
        rwa [decide_eq_false_iff_not, not_not] at outside
  · split at piece
    · next closed =>
        obtain ⟨rfl, rfl⟩ := Trivia.piece.inj piece
        obtain ⟨comment, rfl, noEnd⟩ := exists_of_commentBody? closed
        exact .inl (.block noEnd .nil)
    · cases piece
  · split at piece
    · next isBlank =>
        obtain ⟨rfl, rfl⟩ := Trivia.piece.inj piece
        exact .inl (.blank isBlank .nil)
    · cases piece
  · cases piece

/-- Trivia after a line break is trivia on its own. -/
theorem Filler.of_cons_lineBreak (filler : Filler ('\n' :: cs)) : Filler cs := by
  cases filler with
  | blank _ further => exact further

/-- The trivia that ends a text does so without a line break in front, too. -/
theorem LastFiller.of_cons_lineBreak (last : LastFiller ('\n' :: cs)) : LastFiller cs := by
  generalize whole : '\n' :: cs = all at last
  cases last with
  | closed filler =>
      subst whole
      exact .closed filler.of_cons_lineBreak
  | line filler oneLine =>
      cases filler with
      | blank _ further =>
          obtain ⟨rfl, rfl⟩ := List.cons.inj whole
          exact .line further oneLine
      | _ => cases (List.cons.inj whole).1

/-- What is split off the front of a text is trivia; it may end with an open line only at the end of
the text. -/
theorem filler_gap (cs : List Char) :
    if (gap cs).2 = some [] then LastFiller (gap cs).1 else Filler (gap cs).1 := by
  fun_induction gap cs with
  | case1 cs none =>
      split_ifs
      · exact .closed .nil
      · exact .nil
  | case2 => exact .nil
  | case3 cs text rest piece more ih =>
      rcases filler_of_trivia piece with filler | ⟨comment, rfl, oneLine, next⟩
      · split_ifs at ih ⊢ with ended
        · exact .append filler ih
        · exact filler.append ih
      · cases rest with
        | nil =>
            have none : more = ([], some []) := gap_nil
            simp only [none, if_true, List.append_nil]
            exact .line .nil oneLine
        | cons c rest =>
            obtain rfl := next c rfl
            have onward : more = ('\n' :: (gap rest).1, (gap rest).2) :=
              gap_of_trivia_piece (trivia_cons_of_isBlank (by decide) rest)
            have line : Filler ('!' :: '!' :: (comment ++ ['\n'])) := .line oneLine .nil
            have whole (blank : List Char) : '!' :: '!' :: comment ++ '\n' :: blank =
                '!' :: '!' :: (comment ++ ['\n']) ++ blank := by simp
            change if more.2 = some [] then LastFiller more.1 else Filler more.1 at ih
            change if more.2 = some [] then LastFiller ('!' :: '!' :: comment ++ more.1)
              else Filler ('!' :: '!' :: comment ++ more.1)
            simp only [onward, whole] at ih ⊢
            split_ifs at ih ⊢ with ended
            · exact .append line ih.of_cons_lineBreak
            · exact line.append ih.of_cons_lineBreak

end Crossmap.Mapping
