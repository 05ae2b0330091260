import Crossmap.Proofs.Mapping.Trivia

/-! # Nothing of a text is skipped

`Scanned ending front cs ts` says of the characters `cs`, which come after `front` in a text, that
they are the lexemes of the tokens `ts` in their order with trivia before each, and that `ending`
holds of what is left behind the last one. Every lexeme is as long as it can be, and every token has
the place of the first character of its lexeme (`placeAfter`).

The main result says that every text is made in this way, up to its end or up to what cannot be
scanned (`tokenize_accounts_for_text`).
-/

namespace Crossmap.Mapping

/-! ## Places -/

/-- The place that some characters lead to: one more than their line breaks, and one more than the
characters behind the last of these. -/
def placeAfter (cs : List Char) : Location :=
  ⟨1 + cs.count '\n', 1 + (cs.reverse.takeWhile (· ≠ '\n')).length⟩

theorem placeAfter_concat (cs : List Char) (c : Char) :
    placeAfter (cs ++ [c]) = (placeAfter cs).next c := by
  rw [placeAfter, placeAfter, Location.next, List.count_append, List.reverse_concat]
  split_ifs with isBreak
  · simp [isBreak, Nat.add_assoc]
  · simp [isBreak, Nat.add_comm]

theorem past_placeAfter (front cs : List Char) :
    (placeAfter front).past cs = placeAfter (front ++ cs) := by
  induction cs generalizing front with
  | nil => rw [List.append_nil]; rfl
  | cons c cs ih =>
      change ((placeAfter front).next c).past cs = _
      rw [← placeAfter_concat, ih, List.append_assoc]
      rfl

/-! ## Texts made of lexemes and trivia -/

/-- Lexemes and the trivia before them, in a text that begins with `front`. -/
inductive Scanned (ending : List Char → List Char → Prop) :
    List Char → List Char → List LocatedToken → Prop
  | done {front cs : List Char} (last : ending front cs) : Scanned ending front cs []
  | token {front blank text rest : List Char} {t : Token} {ts : List LocatedToken}
      (filler : Filler blank) (spells : Spells t text)
      (longest : ∀ d, rest.head? = some d → t.prolongs d = false)
      (further : Scanned ending (front ++ blank ++ text) rest ts) :
      Scanned ending front (blank ++ (text ++ rest)) (⟨t, placeAfter (front ++ blank)⟩ :: ts)

/-- Whether nothing at the front of a text can be scanned: neither trivia nor the longest lexeme of
a token. -/
structure Stuck (cs : List Char) : Prop where
  notOver : ¬ LastFiller cs
  noTrivia : ∀ {blank rest}, cs = blank ++ rest → Filler blank → blank = []
  noLexeme : ∀ {t text rest}, cs = text ++ rest → Spells t text →
    ∃ d, rest.head? = some d ∧ t.prolongs d = true

/-- Whether a text is made of tokens. Behind the last of them there is only trivia, up to the place
where the tokens stop. -/
def MadeOf (text : List Char) (tokens : Tokens) : Prop :=
  Scanned (fun front blank => LastFiller blank ∧ tokens.stop = placeAfter (front ++ blank)) [] text
    tokens.list

/-- Whether a text is made of tokens up to a place where it cannot be scanned. -/
def BreaksOff (text : List Char) (place : Location) : Prop :=
  ∃ ts, Scanned (fun front cs => ∃ blank rest, cs = blank ++ rest ∧ Filler blank ∧ Stuck rest ∧
    place = placeAfter (front ++ blank)) [] text ts

/-! ## Where scanning ends -/

theorem stuck_of_lexeme_error {c : Char} {cs : List Char} {f : Fault}
    (solid : gap (c :: cs) = ([], some (c :: cs))) (failed : lexeme c cs = .error f) :
    Stuck (c :: cs) where
  notOver last := by
    have ended := gap_of_lastFiller last
    rw [solid] at ended
    cases ended
  noTrivia {blank rest} same filler := by
    have split := gap_append_of_filler filler rest
    rw [← same, solid] at split
    exact (List.append_eq_nil_iff.mp (Prod.mk.inj split).1.symm).1
  noLexeme {t text rest} same spells := by
    obtain ⟨d, ds, rfl⟩ := List.exists_cons_of_ne_nil (ne_nil_of_spells spells)
    rw [List.cons_append] at same
    obtain ⟨rfl, rfl⟩ := List.cons.inj same
    by_contra longest
    push Not at longest
    have read := lexeme_of_spells spells fun d next =>
      Bool.eq_false_iff.mpr (longest d next)
    rw [failed] at read
    cases read

theorem stuck_of_trivia_unclosed {cs : List Char} (unclosed : trivia cs = .unclosed) :
    Stuck cs := by
  have split : gap cs = ([], none) := by
    rw [gap]
    split
    · next found => cases unclosed.symm.trans found
    · rfl
    · next found => cases unclosed.symm.trans found
  refine ⟨fun last => ?_, fun {blank rest} same filler => ?_, fun {t text rest} same spells => ?_⟩
  · rw [gap_of_lastFiller last] at split
    cases split
  · have whole := gap_append_of_filler filler rest
    rw [← same, split] at whole
    exact (List.append_eq_nil_iff.mp (Prod.mk.inj whole).1.symm).1
  · by_contra longest
    push Not at longest
    obtain ⟨d, ds, rfl⟩ := List.exists_cons_of_ne_nil (ne_nil_of_spells spells)
    have read := lexeme_of_spells spells fun d next =>
      Bool.eq_false_iff.mpr (longest d next)
    have none := trivia_eq_none_of_lexeme read
    rw [← List.cons_append, ← same, unclosed] at none
    cases none

/-- What is left behind the trivia at the front of a text does not begin with trivia, or is a
comment that is not closed. -/
theorem exists_of_gap (cs : List Char) :
    ∃ rest, cs = (gap cs).1 ++ rest ∧
      ((gap cs).2 = some rest ∧ gap rest = ([], some rest) ∨
        (gap cs).2 = none ∧ trivia rest = .unclosed) := by
  fun_induction gap cs with
  | case1 cs none => exact ⟨cs, rfl, .inl ⟨rfl, gap_of_trivia_none none⟩⟩
  | case2 cs unclosed => exact ⟨cs, rfl, .inr ⟨rfl, unclosed⟩⟩
  | case3 cs text rest piece more ih =>
      obtain ⟨left, same, ends⟩ := ih
      refine ⟨left, ?_, ends⟩
      rw [← (trivia_append piece).1, List.append_assoc, ← same]

/-! ## The tokens of a text -/

/-- The tokens of a text, or what keeps it from having tokens, behind other characters of it. -/
theorem scanned_tokensFrom (front cs : List Char) :
    match tokensFrom (placeAfter front) cs with
    | .ok tokens =>
      Scanned (fun front blank => LastFiller blank ∧ tokens.stop = placeAfter (front ++ blank))
        front cs tokens.list
    | .error f =>
      ∃ ts, Scanned (fun front cs => ∃ blank rest, cs = blank ++ rest ∧ Filler blank ∧
        Stuck rest ∧ f.location = placeAfter (front ++ blank)) front cs ts := by
  -- The place is a variable in the induction; every case puts back what it comes from.
  generalize start : placeAfter front = l
  fun_induction tokensFrom l cs generalizing front with
  | case1 l cs blank split =>
      subst start
      obtain ⟨rest, same, ⟨found, -⟩ | ⟨-, unclosed⟩⟩ := exists_of_gap cs
      · rw [split] at found
        cases found
      · have filler := filler_gap cs
        rw [split] at same filler
        rw [if_neg (by rintro ⟨⟩)] at filler
        exact ⟨[], .done ⟨blank, rest, same, filler, stuck_of_trivia_unclosed unclosed,
          past_placeAfter front blank⟩⟩
  | case2 l cs blank split =>
      subst start
      have same : blank ++ [] = cs := by
        have whole := gap_append (congrArg Prod.snd split)
        rwa [split] at whole
      have last := filler_gap cs
      rw [split, if_pos rfl] at last
      rw [List.append_nil] at same
      subst same
      exact .done ⟨last, past_placeAfter front blank⟩
  | case3 l cs blank c rest split f failed =>
      subst start
      obtain ⟨rest', same, ⟨found, solid⟩ | ⟨none, -⟩⟩ := exists_of_gap cs
      · have filler := filler_gap cs
        rw [split] at same found filler
        obtain rfl := Option.some.inj found
        rw [if_neg (by rintro ⟨⟩)] at filler
        exact ⟨[], .done ⟨blank, c :: rest, same, filler, stuck_of_lexeme_error solid failed,
          past_placeAfter front blank⟩⟩
      · rw [split] at none
        cases none
  | case4 l cs blank c rest split x read ih =>
      subst start
      have same : blank ++ (x.text ++ x.rest) = cs := by
        have whole := gap_append (congrArg Prod.snd split)
        rw [split] at whole
        rwa [lexeme_append read]
      have filler := filler_gap cs
      rw [split, if_neg (by rintro ⟨⟩)] at filler
      have spells := spells_of_lexeme read
      have longest := prolongs_of_lexeme read
      have further := ih (front ++ blank ++ x.text) (by rw [past_placeAfter, past_placeAfter])
      rw [past_placeAfter] at further ⊢
      subst same
      cases onward : tokensFrom ((placeAfter (front ++ blank)).past x.text) x.rest with
      | error f =>
          rw [onward] at further
          obtain ⟨ts, scanned⟩ := further
          exact ⟨_, .token filler spells longest scanned⟩
      | ok tokens =>
          rw [onward] at further
          exact .token filler spells longest further

/-- **Nothing of a text is skipped or read twice.** A text that has tokens is made of their lexemes
and of trivia, and every token has the place of its first character; so has the end. A text that
has none is made so up to the place of the fault, where neither trivia nor a lexeme begins. -/
theorem tokenize_accounts_for_text (text : String) :
    match tokenize text with
    | .ok tokens => MadeOf text.toList tokens
    | .error f => BreaksOff text.toList f.location :=
  scanned_tokensFrom [] text.toList

end Crossmap.Mapping
