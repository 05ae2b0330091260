import Crossmap.Proofs.Mapping.Trivia
import Mathlib.Data.List.Forall2

/-! # Lexemes under any layout

`LaidOut lexemes text` says that a text is made of lexemes with trivia between them, whatever the
trivia is. Tokens written in this way are the tokens of the text, and an integer of any length is
read exactly if it is in the range of codes (`layouts_are_tokenized`).
-/

namespace Crossmap.Mapping

/-! ## Layouts -/

/-- Lexemes one after another, with some trivia between neighbours. -/
inductive Separated : List (List Char) → List Char → Prop
  | last {lexeme blank : List Char} (trivia : LastFiller blank) :
      Separated [lexeme] (lexeme ++ blank)
  | more {lexeme blank rest : List Char} {lexemes : List (List Char)} (trivia : Filler blank)
      (apart : blank ≠ []) (further : Separated lexemes rest) :
      Separated (lexeme :: lexemes) (lexeme ++ (blank ++ rest))

/-- Texts made of lexemes and trivia. -/
inductive LaidOut : List (List Char) → List Char → Prop
  | empty {blank : List Char} (trivia : LastFiller blank) : LaidOut [] blank
  | lexemes {blank rest : List Char} {lexemes : List (List Char)} (trivia : Filler blank)
      (separated : Separated lexemes rest) : LaidOut lexemes (blank ++ rest)

/-- A token as it is written, with nothing escaped but what has to be. -/
def Token.written (t : Token) : List Char := t.spelling neededEscapes

/-- An integer in decimal digits. -/
def integerText (negative : Bool) (digits : List Char) : List Char :=
  if negative then '-' :: digits else digits

/-- The number that an integer in decimal digits writes. -/
def integerValue (negative : Bool) (digits : List Char) : Int :=
  if negative then -(digitsValue digits : Int) else digitsValue digits

/-! ## Trivia prolongs no token -/

/-- No lexeme goes on with a blank. -/
theorem prolongs_eq_false_of_isBlank (t : Token) {c : Char} (isBlank : Text.isBlank c = true) :
    t.prolongs c = false := by
  have notDigit : c.isDigit = false := by
    by_contra digit
    rw [Text.isBlank_eq_false_of_isDigit (eq_true_of_ne_false digit)] at isBlank
    cases isBlank
  have notStart : isNameStart c = false := by
    by_contra start
    rw [isBlank_eq_false_of_isNameStart (eq_true_of_ne_false start)] at isBlank
    cases isBlank
  have notPart : isNamePart c = false := by
    rw [isNameStart, Bool.or_eq_false_iff] at notStart
    rw [isNamePart, Char.isAlphanum, notStart.1, notStart.2, notDigit]
    rfl
  cases t with
  | name => exact notPart
  | marker => exact notPart
  | code => exact notDigit
  | quoted => rfl
  | symbol s =>
      cases s
      case leftArrow =>
        refine decide_eq_false ?_
        rintro rfl
        cases isBlank
      all_goals rfl

/-- No lexeme goes on with a character that opens a comment. -/
theorem prolongs_comment (t : Token) {c : Char} (opens : c = '!' ∨ c = '/') :
    t.prolongs c = false := by
  rcases opens with rfl | rfl
  all_goals
    cases t with
    | symbol s => cases s <;> rfl
    | _ => rfl

/-- No lexeme goes on into the trivia that follows it. -/
theorem Filler.prolongs_eq_false {blank : List Char} (filler : Filler blank) (t : Token) {d : Char}
    (first : blank.head? = some d) : t.prolongs d = false := by
  cases filler with
  | nil => cases first
  | blank isBlank =>
      obtain rfl := Option.some.inj first
      exact prolongs_eq_false_of_isBlank t isBlank
  | line =>
      obtain rfl := Option.some.inj first
      exact prolongs_comment t (.inl rfl)
  | block =>
      obtain rfl := Option.some.inj first
      exact prolongs_comment t (.inr rfl)

/-- No lexeme goes on into the trivia that ends a text. -/
theorem LastFiller.prolongs_eq_false {blank : List Char} (last : LastFiller blank) (t : Token)
    {d : Char} (first : blank.head? = some d) : t.prolongs d = false := by
  cases last with
  | closed filler => exact filler.prolongs_eq_false t first
  | @line cs comment filler =>
      cases cs with
      | nil =>
          obtain rfl := Option.some.inj first
          exact prolongs_comment t (.inl rfl)
      | cons c cs => exact filler.prolongs_eq_false t first

/-- What follows a lexeme in a layout does not prolong any token. -/
theorem Separated.longest {lexeme cs : List Char} {lexemes : List (List Char)}
    (separated : Separated (lexeme :: lexemes) cs) :
    ∃ rest, cs = lexeme ++ rest ∧ LaidOut lexemes rest ∧
      ∀ (t : Token) d, rest.head? = some d → t.prolongs d = false := by
  cases separated with
  | last trivia => exact ⟨_, rfl, .empty trivia, fun t _ next => trivia.prolongs_eq_false t next⟩
  | @more _ blank rest _ trivia apart further =>
      refine ⟨blank ++ rest, rfl, .lexemes trivia further, fun t d next => ?_⟩
      obtain ⟨c, blank, rfl⟩ := List.exists_cons_of_ne_nil apart
      exact trivia.prolongs_eq_false t next

/-- A layout begins with its first lexeme, behind trivia. -/
theorem LaidOut.exists_of_cons {lexeme cs : List Char} {lexemes : List (List Char)}
    (layout : LaidOut (lexeme :: lexemes) cs) :
    ∃ blank rest, cs = blank ++ (lexeme ++ rest) ∧ Filler blank ∧ LaidOut lexemes rest ∧
      ∀ (t : Token) d, rest.head? = some d → t.prolongs d = false := by
  cases layout with
  | lexemes trivia separated =>
      obtain ⟨rest, rfl, further, longest⟩ := separated.longest
      exact ⟨_, rest, rfl, trivia, further, longest⟩

/-! ## Reading a layout -/

/-- A text of trivia alone has no tokens. -/
theorem lexes_of_lastFiller {blank : List Char} (last : LastFiller blank) : Lexes blank [] :=
  .done (congrArg Prod.snd (gap_of_lastFiller last))

/-- The front of a text with a lexeme behind trivia. -/
theorem gap_append_lexeme {c : Char} {blank cs : List Char} {x : Lexeme} (filler : Filler blank)
    (read : lexeme c cs = .ok x) : (gap (blank ++ c :: cs)).2 = some (c :: cs) := by
  rw [gap_append_of_filler filler, gap_of_trivia_none (trivia_eq_none_of_lexeme read)]

/-- A text that begins with a lexeme behind trivia begins with its token, and has those of the rest
after it. -/
theorem lexes_append_iff {t : Token} {text blank rest : List Char} {ts : List Token}
    (filler : Filler blank) (spells : Spells t text)
    (longest : ∀ d, rest.head? = some d → t.prolongs d = false) :
    Lexes (blank ++ (text ++ rest)) ts ↔ ∃ others, ts = t :: others ∧ Lexes rest others := by
  obtain ⟨c, cs, rfl⟩ := List.exists_cons_of_ne_nil (ne_nil_of_spells spells)
  have read := lexeme_of_spells spells longest
  have front := gap_append_lexeme filler read
  rw [← List.cons_append] at front
  constructor
  · intro lexes
    cases lexes with
    | done ended => cases front.symm.trans ended
    | token front' first further =>
        obtain ⟨rfl, rfl⟩ := List.cons.inj (Option.some.inj (front.symm.trans front'))
        obtain rfl := Except.ok.inj (read.symm.trans first)
        exact ⟨_, rfl, further⟩
  · rintro ⟨others, rfl, further⟩
    exact .token front read further

/-- A text laid out in spellings of tokens has these tokens. -/
theorem lexes_of_laidOut {ts : List Token} {lexemes : List (List Char)} {cs : List Char}
    (spells : List.Forall₂ Spells ts lexemes) (layout : LaidOut lexemes cs) : Lexes cs ts := by
  induction spells generalizing cs with
  | nil =>
      cases layout with
      | empty trivia => exact lexes_of_lastFiller trivia
      | lexemes _ separated => cases separated
  | cons first _ ih =>
      obtain ⟨blank, rest, rfl, filler, further, longest⟩ := layout.exists_of_cons
      exact (lexes_append_iff filler first (longest _)).mpr ⟨_, rfl, ih further⟩

/-- A text laid out in spellings of tokens up to some lexeme has tokens only if a text does that
begins with that lexeme. -/
theorem exists_lexes_of_laidOut_append {before ts : List Token} {lexemes others : List (List Char)}
    {cs : List Char} (spells : List.Forall₂ Spells before lexemes)
    (layout : LaidOut (lexemes ++ others) cs) (lexes : Lexes cs ts) :
    ∃ rest us, LaidOut others rest ∧ Lexes rest us := by
  induction spells generalizing cs ts with
  | nil => exact ⟨cs, ts, layout, lexes⟩
  | cons first _ ih =>
      obtain ⟨blank, rest, rfl, filler, further, longest⟩ := layout.exists_of_cons
      obtain ⟨us, -, lexes⟩ := (lexes_append_iff filler first (longest _)).mp lexes
      exact ih further lexes

/-! ## Lexemes -/

/-- Lexical tokens are spelt by the way they are written. -/
theorem forall₂_spells_written {ts : List Token} (lexical : Lexical ts) :
    List.Forall₂ Spells ts (ts.map Token.written) := by
  rw [List.forall₂_map_right_iff, List.forall₂_same]
  exact fun t member => spells_spelling escapesWell_needed (lexical t member)

/-- The code that an integer writes. -/
theorem spells_integerText {negative : Bool} {digits : List Char} {c : Code} (ne : digits ≠ [])
    (inClass : ∀ d ∈ digits, d.isDigit = true) (value : c.toInt = integerValue negative digits) :
    Spells (.code c) (integerText negative digits) := by
  obtain ⟨d, ds, rfl⟩ := List.exists_cons_of_ne_nil ne
  have read : Code.ofDigits? negative (d :: ds) = some c := Code.ofInt?_eq_some_iff.mpr value.symm
  cases negative with
  | true => exact .negative inClass read
  | false => exact .unsigned inClass read

/-- There is no trivia at a character that is no blank and opens no comment. -/
theorem trivia_eq_none {c : Char} (solid : Text.isBlank c = false) (noLine : c ≠ '!')
    (noBlock : c ≠ '/') (cs : List Char) : trivia (c :: cs) = .none := by
  unfold trivia
  split
  · next same => exact absurd (List.cons.inj same).1 noLine
  · next same => exact absurd (List.cons.inj same).1 noBlock
  · next same =>
      obtain ⟨rfl, rfl⟩ := List.cons.inj same
      rw [solid, if_neg Bool.false_ne_true]
  · next same => cases same

/-- An integer out of range is refused with its sign and all its digits. -/
theorem codeLexeme_eq_error {negative : Bool} (sign : List Char) {digits rest : List Char}
    (inClass : ∀ d ∈ digits, d.isDigit = true) (none : Code.ofDigits? negative digits = none)
    (longest : ∀ d, rest.head? = some d → d.isDigit = false) :
    codeLexeme negative sign (digits ++ rest) = .error (.codeOutOfRange negative digits) := by
  obtain ⟨taken, -⟩ := Text.span_append inClass longest
  simp only [codeLexeme, taken, none]

/-- An integer is taken for one, be it a code or not. -/
theorem exists_lexeme_integerText (negative : Bool) {digits : List Char} (ne : digits ≠ [])
    (inClass : ∀ d ∈ digits, d.isDigit = true) (rest : List Char) :
    ∃ c cs sign, integerText negative digits ++ rest = c :: cs ∧ trivia (c :: cs) = .none ∧
      lexeme c cs = codeLexeme negative sign (digits ++ rest) := by
  obtain ⟨d, ds, rfl⟩ := List.exists_cons_of_ne_nil ne
  have digit := inClass d List.mem_cons_self
  cases negative with
  | true =>
      refine ⟨'-', d :: ds ++ rest, ['-'], rfl, trivia_eq_none (by decide) (by decide) (by decide) _,
        ?_⟩
      exact dashLexeme_eq_codeLexeme digit (ds ++ rest)
  | false =>
      refine ⟨d, ds ++ rest, [], rfl, trivia_eq_none (Text.isBlank_eq_false_of_isDigit digit)
        (ne_of_class digit (by decide)) (ne_of_class digit (by decide)) _, ?_⟩
      exact lexeme_eq_codeLexeme digit (ds ++ rest)

/-- An integer that is no code is not read. -/
theorem not_lexes_integerText {negative : Bool} {digits blank rest : List Char} {ts : List Token}
    (ne : digits ≠ []) (inClass : ∀ d ∈ digits, d.isDigit = true)
    (none : Code.ofDigits? negative digits = none) (filler : Filler blank)
    (longest : ∀ d, rest.head? = some d → d.isDigit = false) :
    ¬ Lexes (blank ++ (integerText negative digits ++ rest)) ts := by
  obtain ⟨c, cs, sign, same, solid, first⟩ :=
    exists_lexeme_integerText negative ne inClass rest
  rw [codeLexeme_eq_error sign inClass none longest] at first
  have front : (gap (blank ++ (integerText negative digits ++ rest))).2 = some (c :: cs) := by
    rw [same, gap_append_of_filler filler, gap_of_trivia_none solid]
  intro lexes
  cases lexes with
  | done ended => cases front.symm.trans ended
  | token front' read =>
      obtain ⟨rfl, rfl⟩ := List.cons.inj (Option.some.inj (front.symm.trans front'))
      cases first.symm.trans read

/-! ## Tokens of layouts -/

/-- **Tokens are read whatever their layout.** A text laid out in tokens as they are written has
these tokens. Where it is laid out with an integer in the place of one of them, it has tokens
exactly if the integer is in the range of codes, and then the token is that code. -/
theorem layouts_are_tokenized :
    (∀ (ts : List Token) (text : String), Lexical ts →
      LaidOut (ts.map Token.written) text.toList → HasTokens text ts) ∧
    ∀ (before after : List Token) (negative : Bool) (digits : List Char) (text : String),
      Lexical before → Lexical after → digits ≠ [] → (∀ d ∈ digits, d.isDigit = true) →
      LaidOut (before.map Token.written ++ integerText negative digits :: after.map Token.written)
        text.toList →
      ((∃ ts, HasTokens text ts) ↔ Code.least ≤ integerValue negative digits ∧
        integerValue negative digits ≤ Code.greatest) ∧
      ∀ c : Code, c.toInt = integerValue negative digits →
        HasTokens text (before ++ .code c :: after) := by
  refine ⟨fun ts text lexical layout => ?_, fun before after negative digits text lexicalBefore
    lexicalAfter ne inClass layout => ?_⟩
  · exact hasTokens_iff_lexes.mpr (lexes_of_laidOut (forall₂_spells_written lexical) layout)
  · have read (c : Code) (value : c.toInt = integerValue negative digits) :
        HasTokens text (before ++ .code c :: after) :=
      hasTokens_iff_lexes.mpr (lexes_of_laidOut
        (List.rel_append (forall₂_spells_written lexicalBefore)
          (.cons (spells_integerText ne inClass value) (forall₂_spells_written lexicalAfter)))
        layout)
    refine ⟨⟨fun ⟨ts, tokens⟩ => ?_, fun ⟨low, high⟩ => ?_⟩, read⟩
    · obtain ⟨rest, us, layout, lexes⟩ := exists_lexes_of_laidOut_append
        (forall₂_spells_written lexicalBefore) layout (hasTokens_iff_lexes.mp tokens)
      obtain ⟨blank, rest, rfl, filler, -, longest⟩ := layout.exists_of_cons
      cases value : Code.ofDigits? negative digits with
      | none => exact (not_lexes_integerText ne inClass value filler (longest (.code 0)) lexes).elim
      | some c =>
          have same : integerValue negative digits = c.toInt := Code.ofInt?_eq_some_iff.mp value
          rw [same]
          exact ⟨c.le_toInt, Int.le_sub_one_of_lt c.toInt_lt⟩
    · refine ⟨_, read (Int64.ofInt (integerValue negative digits)) ?_⟩
      exact Int64.toInt_ofInt_of_le low (Int.lt_add_one_of_le high)

/-- Tokens whose lexemes run together, and that comments alone keep apart. -/
def crowdedTokens : List Token :=
  [.marker "PARENT", .symbol .arrow, .code (-12), .symbol .leftArrow, .quoted "say \"--\"\n"]

/-- The tokens kept apart by comments of either kind. -/
def crowdedText : String :=
  "/**/\t$PARENT/*/**/->!! ->\n-12 <-!!\n\"say \\\"--\\\"\\n\"!! end"

/-- The text with comments for gaps lays the tokens out. -/
theorem laidOut_crowdedText : LaidOut (crowdedTokens.map Token.written) crowdedText.toList := by
  have tab : Filler ['\t'] := .blank (by decide) .nil
  have blank : Filler [' '] := .blank (by decide) .nil
  have block := @Filler.block ['/', '*'] [] (by decide) .nil
  have line := @Filler.line [' ', '-', '>'] [] (by decide) .nil
  have empty := @Filler.line [] [] (by decide) .nil
  have last := @LastFiller.line [] [' ', 'e', 'n', 'd'] .nil (by decide)
  exact .lexemes (@Filler.block [] _ (by decide) tab)
    (.more block (by decide) (.more line (by decide) (.more blank (by decide)
      (.more empty (by decide) (.last last)))))

/-- An integer and a semicolon are laid out with a blank between them. -/
theorem laidOut_integerText (negative : Bool) (digits : List Char) :
    LaidOut [integerText negative digits, Token.written (.symbol .semicolon)]
      (integerText negative digits ++ [' ', ';']) := by
  have blank : Filler [' '] := .blank rfl .nil
  have semicolon : Separated [[';']] ([';'] ++ []) := .last (.closed .nil)
  rw [← List.nil_append (integerText negative digits ++ _)]
  exact .lexemes .nil (.more blank (List.cons_ne_nil _ _) semicolon)

theorem layouts_are_tokenized_crowded :
    HasTokens crowdedText crowdedTokens ∧
    HasTokens "-0009223372036854775808 ;" [.code (-9223372036854775808), .symbol .semicolon] ∧
    ¬ ∃ ts, HasTokens "9223372036854775808 ;" ts := by
  have semicolon : Lexical [.symbol .semicolon] := lexical_cons.mpr ⟨trivial, lexical_nil⟩
  refine ⟨layouts_are_tokenized.1 _ _ ?_ laidOut_crowdedText, ?_, ?_⟩
  · simp only [crowdedTokens, lexical_cons, lexical_nil, Token.IsLexical]
    decide
  · have inClass : "0009223372036854775808".toList.all Char.isDigit = true := by decide
    exact (layouts_are_tokenized.2 [] [.symbol .semicolon] true "0009223372036854775808".toList
      "-0009223372036854775808 ;" lexical_nil semicolon (by decide) (List.all_eq_true.mp inClass)
      (laidOut_integerText true _)).2 _ (by decide)
  · have inClass : "9223372036854775808".toList.all Char.isDigit = true := by decide
    have accepted := (layouts_are_tokenized.2 [] [.symbol .semicolon] false
      "9223372036854775808".toList "9223372036854775808 ;" lexical_nil semicolon (by decide)
      (List.all_eq_true.mp inClass) (laidOut_integerText false _)).1
    rw [accepted]
    decide

end Crossmap.Mapping
