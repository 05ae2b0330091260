import Crossmap.Proofs.Text.Split
import Crossmap.Sql.Statement

/-! # Names in statements

The rules by which names are read in statements do not depend on how names are written: a segment is
a plain identifier, or it stands between quotes, where a doubled quote means a single one
(`SegmentText`), and a name is segments with dots between them (`NameText`). By these rules every
name that is written means its own segments (`nameText_quoteName`). Where quotes can be told from
dots and identifiers it means nothing else, wherever in a text it ends (`NameText.unique`), so that
no two names are written in the same way (`quoteName_injective`).
-/

namespace Crossmap.Sql

/-! ## The rules -/

/-- What characters mean up to the quote that closes a segment. -/
inductive QuotedText (q : Char) : List Char → List Char → Prop
  | closing : QuotedText q [] [q]
  | double {cs text : List Char} (further : QuotedText q cs text) :
      QuotedText q (q :: cs) (q :: q :: text)
  | other {c : Char} {cs text : List Char} (ne : c ≠ q) (further : QuotedText q cs text) :
      QuotedText q (c :: cs) (c :: text)

/-- What a text means as a segment of a name. -/
inductive SegmentText (q : Char) : List Char → List Char → Prop
  | plain {c : Char} {cs : List Char} (start : isIdentifierStart c = true)
      (parts : ∀ c' ∈ cs, isIdentifierPart c' = true) : SegmentText q (c :: cs) (c :: cs)
  | quoted {cs text : List Char} (body : QuotedText q cs text) : SegmentText q cs (q :: text)

/-- What a text means as a name. -/
inductive NameText (q : Char) : List String → List Char → Prop
  | last {segment : String} {text : List Char} (first : SegmentText q segment.toList text) :
      NameText q [segment] text
  | more {segment : String} {segments : List String} {text text' : List Char}
      (first : SegmentText q segment.toList text) (further : NameText q segments text') :
      NameText q (segment :: segments) (text ++ '.' :: text')

/-- Whether the quotes of a dialect can be told from dots and identifiers. -/
structure Dialect.QuotesApart (d : Dialect) : Prop where
  notPart : isIdentifierPart d.quoteChar = false
  notDot : d.quoteChar ≠ '.'

/-! ## Written names -/

section Written

variable (d : Dialect)

/-- A text whose quotes are doubled, with a quote behind it, means that text. -/
theorem quotedText_flatMap (q : Char) (cs : List Char) :
    QuotedText q cs ((cs.flatMap fun c => if c = q then [c, c] else [c]) ++ [q]) := by
  induction cs with
  | nil => exact .closing
  | cons c cs ih =>
      rw [List.flatMap_cons]
      by_cases same : c = q
      · rw [if_pos same, same]
        exact .double ih
      · rw [if_neg same]
        exact .other same ih

/-- A segment that is written means itself. -/
theorem segmentText_quoteSegment (segment : String) :
    SegmentText d.quoteChar segment.toList (d.quoteSegment segment).toList := by
  rw [Dialect.quoteSegment]
  by_cases plain : isPlain segment.toList = true
  · rw [if_pos plain]
    cases chars : segment.toList with
    | nil =>
        rw [chars] at plain
        cases plain
    | cons c cs =>
        rw [chars, isPlain, Bool.and_eq_true, List.all_eq_true] at plain
        exact .plain plain.1 plain.2
  · rw [if_neg plain, String.toList_ofList, Dialect.quoted]
    exact .quoted (quotedText_flatMap _ _)

/-- Segments that are written with dots between them mean the name that they make up. -/
theorem nameText_joinWith {segments : List String} (some : segments ≠ []) :
    NameText d.quoteChar segments (Text.joinWith "." (segments.map d.quoteSegment)).toList := by
  induction segments with
  | nil => exact absurd rfl some
  | cons segment rest ih =>
      have first := segmentText_quoteSegment d segment
      cases rest with
      | nil => exact .last first
      | cons next rest =>
          have further := ih (List.cons_ne_nil _ _)
          have joined : (Text.joinWith "." ((segment :: next :: rest).map d.quoteSegment)).toList =
              (d.quoteSegment segment).toList ++
                '.' :: (Text.joinWith "." ((next :: rest).map d.quoteSegment)).toList := by
            rw [List.map_cons, Text.joinWith_cons (by simp), String.toList_append,
              String.toList_append, List.append_assoc]
            rfl
          rw [joined]
          exact .more first further

/-- A name that is written means its segments. -/
theorem nameText_quoteName (name : String) :
    NameText d.quoteChar (Text.segments name) (d.quoteName name).toList := by
  apply nameText_joinWith
  rw [Text.segments]
  exact mt List.map_eq_nil_iff.mp (Text.splitAt_ne_nil '.' name.toList)

end Written

/-! ## Names are read in one way -/

/-- Whether what follows a segment does not prolong it. -/
def EndsSegment (q : Char) (rest : List Char) : Prop :=
  ∀ c ∈ rest.head?, isIdentifierPart c = false ∧ c ≠ q

/-- Whether what follows a name does not prolong it. -/
def EndsName (q : Char) (rest : List Char) : Prop := EndsSegment q rest ∧ '.' ∉ rest.head?

/-- What starts an identifier can stand further on in one. -/
theorem isIdentifierPart_of_isIdentifierStart {c : Char} (start : isIdentifierStart c = true) :
    isIdentifierPart c = true := by
  simp only [isIdentifierStart, isIdentifierPart, Char.isAlphanum, Bool.or_eq_true] at start ⊢
  rcases start with letter | underscore
  · exact .inl (.inl letter)
  · exact .inr underscore

section Unique

variable {q : Char} {rest rest' : List Char}

/-- What stands between quotes means one text, and ends at one place. -/
theorem QuotedText.unique {cs cs' text text' : List Char} (read : QuotedText q cs text)
    (read' : QuotedText q cs' text') (same : text ++ rest = text' ++ rest')
    (ends : q ∉ rest.head?) (ends' : q ∉ rest'.head?) : cs = cs' ∧ rest = rest' := by
  induction read generalizing cs' text' with
  | closing =>
      cases read' with
      | closing => exact ⟨rfl, (List.cons.inj same).2⟩
      | double further =>
          have again : rest = q :: _ := (List.cons.inj same).2
          rw [again] at ends
          exact absurd rfl ends
      | other ne further => exact absurd (List.cons.inj same).1.symm ne
  | double _ ih =>
      cases read' with
      | closing =>
          have again : rest' = q :: _ := (List.cons.inj same).2.symm
          rw [again] at ends'
          exact absurd rfl ends'
      | double further =>
          obtain ⟨rfl, after⟩ := ih further (List.cons.inj (List.cons.inj same).2).2
          exact ⟨rfl, after⟩
      | other ne further => exact absurd (List.cons.inj same).1.symm ne
  | other ne _ ih =>
      cases read' with
      | closing => exact absurd (List.cons.inj same).1 ne
      | double further => exact absurd (List.cons.inj same).1 ne
      | other ne' further =>
          obtain ⟨rfl, others⟩ := List.cons.inj same
          obtain ⟨rfl, after⟩ := ih further others
          exact ⟨rfl, after⟩

/-- A segment means one text, and ends at one place. -/
theorem SegmentText.unique (apart : isIdentifierPart q = false) {cs cs' text text' : List Char}
    (read : SegmentText q cs text) (read' : SegmentText q cs' text')
    (same : text ++ rest = text' ++ rest') (ends : EndsSegment q rest)
    (ends' : EndsSegment q rest') : cs = cs' ∧ rest = rest' := by
  have notStart {c : Char} (start : isIdentifierStart c = true) : c ≠ q := by
    rintro rfl
    rw [isIdentifierPart_of_isIdentifierStart start] at apart
    cases apart
  cases read with
  | plain start parts =>
      cases read' with
      | plain start' parts' =>
          have all := List.forall_mem_cons (p := (isIdentifierPart · = true)).mpr
            ⟨isIdentifierPart_of_isIdentifierStart start, parts⟩
          have all' := List.forall_mem_cons (p := (isIdentifierPart · = true)).mpr
            ⟨isIdentifierPart_of_isIdentifierStart start', parts'⟩
          obtain ⟨taken, left⟩ := Text.span_append all fun d next => (ends d next).1
          obtain ⟨taken', left'⟩ := Text.span_append all' fun d next => (ends' d next).1
          rw [same] at taken left
          exact ⟨taken.symm.trans taken', left.symm.trans left'⟩
      | quoted body => exact absurd (List.cons.inj same).1 (notStart start)
  | quoted body =>
      cases read' with
      | plain start' parts' => exact absurd (List.cons.inj same).1.symm (notStart start')
      | quoted body' =>
          exact body.unique body' (List.cons.inj same).2 (fun again => (ends q again).2 rfl)
            (fun again => (ends' q again).2 rfl)

/-- **A name is read in one way.** The text of a name means one list of segments, and it ends at one
place of the text in which it stands. -/
theorem NameText.unique {d : Dialect} (apart : d.QuotesApart) {segments segments' : List String}
    {text text' : List Char} (read : NameText d.quoteChar segments text)
    (read' : NameText d.quoteChar segments' text') (same : text ++ rest = text' ++ rest')
    (ends : EndsName d.quoteChar rest) (ends' : EndsName d.quoteChar rest') :
    segments = segments' ∧ rest = rest' := by
  have atDot (more : List Char) : EndsSegment d.quoteChar ('.' :: more) := by
    intro c member
    obtain rfl := Option.some.inj member
    exact ⟨by decide, apart.notDot.symm⟩
  induction read generalizing segments' text' with
  | last first =>
      cases read' with
      | last first' =>
          obtain ⟨chars, after⟩ := first.unique apart.notPart first' same ends.1 ends'.1
          exact ⟨by rw [String.toList_inj.mp chars], after⟩
      | more first' further' =>
          rw [List.append_assoc] at same
          obtain ⟨-, after⟩ := first.unique apart.notPart first' same ends.1 (atDot _)
          rw [after] at ends
          exact absurd rfl ends.2
  | more first _ ih =>
      rw [List.append_assoc] at same
      cases read' with
      | last first' =>
          obtain ⟨-, after⟩ := first.unique apart.notPart first' same (atDot _) ends'.1
          rw [← after] at ends'
          exact absurd rfl ends'.2
      | more first' further' =>
          rw [List.append_assoc] at same
          obtain ⟨chars, after⟩ := first.unique apart.notPart first' same (atDot _) (atDot _)
          obtain ⟨rfl, after'⟩ := ih further' (List.cons.inj after).2
          exact ⟨by rw [String.toList_inj.mp chars], after'⟩

end Unique

/-- **Different names are written differently.** -/
theorem quoteName_injective {d : Dialect} (apart : d.QuotesApart) :
    Function.Injective d.quoteName := by
  intro name name' same
  have ends : EndsName d.quoteChar [] := ⟨nofun, nofun⟩
  have read := nameText_quoteName d name
  rw [same] at read
  obtain ⟨segments, -⟩ := read.unique apart (nameText_quoteName d name') rfl ends ends
  rw [← Text.joinWith_segments name, segments, Text.joinWith_segments]

end Crossmap.Sql
