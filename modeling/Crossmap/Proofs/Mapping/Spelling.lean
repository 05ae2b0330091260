import Crossmap.Mapping.Lexeme
import Crossmap.Proofs.Number.CodeText
import Crossmap.Proofs.Text.Split
import Mathlib.Tactic.SplitIfs

/-! # How tokens are spelled

`Spells t text` says that the characters `text` spell the token `t`. What is split off a text as a
lexeme spells its token (`spells_of_lexeme`), and characters that spell a token are split off as one
lexeme where the next character does not prolong it (`lexeme_of_spells`).

`layout` writes tokens one after another, with blanks between those that would run together. The
tokens of a text so written are the tokens it was written from (`tokenize_layout`), provided that
names and markers are made of the characters of names, as they are in every text that has tokens
(`lexical_of_tokensFrom`).
-/

namespace Crossmap.Mapping

/-! ## Characters -/

/-- A letter has the code of a capital or a small letter of ASCII. -/
theorem toNat_of_isAlpha {c : Char} (letter : c.isAlpha = true) :
    65 ≤ c.toNat ∧ c.toNat ≤ 90 ∨ 97 ≤ c.toNat ∧ c.toNat ≤ 122 := by
  unfold Char.isAlpha Char.isUpper Char.isLower at letter
  simp only [Bool.or_eq_true, Bool.and_eq_true, decide_eq_true_eq, ge_iff_le,
    UInt32.le_iff_toNat_le] at letter
  exact letter

/-- No name begins with a blank. -/
theorem isBlank_eq_false_of_isNameStart {c : Char} (start : isNameStart c = true) :
    Text.isBlank c = false := by
  rw [isNameStart, Bool.or_eq_true, decide_eq_true_eq] at start
  rcases start with letter | rfl
  · have range := toNat_of_isAlpha letter
    simp only [Text.isBlank, Text.inRanges, Text.blankRanges, List.any_cons, List.any_nil,
      Bool.or_false, Bool.or_eq_false_iff, Bool.and_eq_false_iff, decide_eq_false_iff_not]
    omega
  · decide

/-- No name begins with a digit. -/
theorem isDigit_eq_false_of_isNameStart {c : Char} (start : isNameStart c = true) :
    c.isDigit = false := by
  rw [isNameStart, Bool.or_eq_true, decide_eq_true_eq] at start
  rcases start with letter | rfl
  · have range := toNat_of_isAlpha letter
    simp only [Char.isDigit, ge_iff_le, Bool.and_eq_false_iff, decide_eq_false_iff_not,
      UInt32.le_iff_toNat_le]
    change ¬48 ≤ c.toNat ∨ ¬c.toNat ≤ 57
    omega
  · decide

/-- No name begins with a symbol of one character. -/
theorem symbolOf?_eq_none_of_isNameStart {c : Char} (start : isNameStart c = true) :
    symbolOf? c = none := by
  unfold symbolOf?
  split
  all_goals first | rfl | exact absurd start (by decide)

/-- No digit is a symbol. -/
theorem symbolOf?_eq_none_of_isDigit {c : Char} (digit : c.isDigit = true) :
    symbolOf? c = none := by
  unfold symbolOf?
  split
  all_goals first | rfl | exact absurd digit (by decide)

/-! ## Quoted texts -/

/-- The characters of a quoted text, and characters that write them between the quotes. -/
inductive QuoteSpells : List Char → List Char → Prop
  | nil : QuoteSpells [] []
  | verbatim {c : Char} {value text : List Char} (noQuote : c ≠ '"') (noEscape : c ≠ '\\')
      (noBreak : c ≠ '\n') (further : QuoteSpells value text) : QuoteSpells (c :: value) (c :: text)
  | escaped {e c : Char} {value text : List Char} (meaning : escaped? e = some c)
      (further : QuoteSpells value text) : QuoteSpells (c :: value) ('\\' :: e :: text)

/-- What writes characters between quotes is read as those characters. -/
theorem quotation_of_quoteSpells {value text : List Char} (spells : QuoteSpells value text)
    (rest : List Char) : quotation (text ++ '"' :: rest) = .ok ⟨value, text ++ ['"'], rest⟩ := by
  induction spells with
  | nil => simp [quotation]
  | verbatim noQuote noEscape noBreak further ih =>
      rw [List.cons_append, quotation]
      · rw [ih]
        rfl
      · exact noQuote
      · exact noBreak
      · rintro e cs rfl
        exact absurd rfl noEscape
      · rintro rfl
        exact absurd rfl noEscape
  | @escaped e c value text meaning further ih =>
      rw [List.cons_append, List.cons_append, quotation, meaning]
      simp only [ih]
      rfl

theorem exists_of_map_eq_ok {ε α β : Type} {x : Except ε α} {f : α → β} {b : β}
    (mapped : x.map f = .ok b) : ∃ a, x = .ok a ∧ f a = b := by
  cases x with
  | error e => exact nomatch mapped
  | ok a => exact ⟨a, rfl, Except.ok.inj mapped⟩

/-- What is read as a quoted text writes its characters up to the closing quote. -/
theorem quoteSpells_of_quotation {cs : List Char} {q : Quotation} (read : quotation cs = .ok q) :
    ∃ text, QuoteSpells q.value text ∧ q.text = text ++ ['"'] := by
  fun_induction quotation cs generalizing q with
  | case1 => cases read
  | case2 cs =>
      obtain rfl := Except.ok.inj read
      exact ⟨[], .nil, rfl⟩
  | case3 => cases read
  | case4 e cs c meaning ih =>
      obtain ⟨r, further, rfl⟩ := exists_of_map_eq_ok read
      obtain ⟨text, spells, same⟩ := ih further
      exact ⟨'\\' :: e :: text, .escaped meaning spells, congrArg ('\\' :: e :: ·) same⟩
  | case5 => cases read
  | case6 => cases read
  | case7 c cs noQuote noBreak noPair noEnd ih =>
      obtain ⟨r, further, rfl⟩ := exists_of_map_eq_ok read
      obtain ⟨text, spells, same⟩ := ih further
      have noEscape : c ≠ '\\' := by
        rintro rfl
        cases cs with
        | nil => exact noEnd rfl rfl
        | cons e cs => exact noPair e cs rfl rfl
      exact ⟨c :: text, .verbatim noQuote noEscape noBreak spells, congrArg (c :: ·) same⟩

/-! ## Tokens -/

/-- Characters that spell a token. -/
inductive Spells : Token → List Char → Prop
  | name {cs : List Char} (lexical : isName cs = true) : Spells (.name (String.ofList cs)) cs
  | marker {cs : List Char} (lexical : isName cs = true) :
      Spells (.marker (String.ofList cs)) ('$' :: cs)
  | unsigned {d : Char} {ds : List Char} {c : Code} (digits : ∀ e ∈ d :: ds, e.isDigit = true)
      (value : Code.ofDigits? false (d :: ds) = some c) : Spells (.code c) (d :: ds)
  | negative {d : Char} {ds : List Char} {c : Code} (digits : ∀ e ∈ d :: ds, e.isDigit = true)
      (value : Code.ofDigits? true (d :: ds) = some c) : Spells (.code c) ('-' :: d :: ds)
  | quoted {value text : List Char} (spells : QuoteSpells value text) :
      Spells (.quoted (String.ofList value)) ('"' :: (text ++ ['"']))
  | symbol (s : Symbol) : Spells (.symbol s) s.text.toList

/-- Whether a character directly after a token would be read with it. -/
def Token.prolongs : Token → Char → Bool
  | .name _, c => isNamePart c
  | .marker _, c => isNamePart c
  | .code _, c => c.isDigit
  | .symbol .leftArrow, c => c = '>'
  | _, _ => false

/-- Every character of a name, the first one included, could stand inside a name. -/
theorem isNamePart_of_mem_isName {cs : List Char} (lexical : isName cs = true) :
    ∀ c ∈ cs, isNamePart c = true := by
  cases cs with
  | nil => exact nofun
  | cons c cs =>
      rw [isName, Bool.and_eq_true] at lexical
      intro d member
      rcases List.mem_cons.mp member with rfl | member
      · exact isNamePart_of_isNameStart lexical.1
      · exact List.all_eq_true.mp lexical.2 d member

/-- A character of a class is none that is not of the class. -/
theorem ne_of_class {p : Char → Bool} {c d : Char} (inClass : p c = true) (outside : p d = false) :
    c ≠ d := by
  rintro rfl
  rw [inClass] at outside
  exact nomatch outside

/-! ### From spellings to lexemes -/

/-- A name that no further character prolongs is split off as a whole. -/
theorem lexeme_of_isName {c : Char} {cs rest : List Char} (lexical : isName (c :: cs) = true)
    (stops : ∀ d, rest.head? = some d → isNamePart d = false) :
    lexeme c (cs ++ rest) = .ok ⟨.name (String.ofList (c :: cs)), c :: cs, rest⟩ := by
  obtain ⟨taken, left⟩ := Text.span_append (isNamePart_of_mem_isName lexical) stops
  rw [isName, Bool.and_eq_true] at lexical
  have start := lexical.1
  have other (d : Char) (notStart : isNameStart d = false) : c ≠ d := ne_of_class start notStart
  rw [lexeme, symbolOf?_eq_none_of_isNameStart start]
  simp only [other '"' (by decide), other '$' (by decide), other '<' (by decide),
    other '-' (by decide), isDigit_eq_false_of_isNameStart start, start, if_false, if_true,
    Bool.false_eq_true]
  rw [← List.cons_append, taken, left]

/-- A marker that no further character prolongs is split off as a whole. -/
theorem dollarLexeme_of_isName {cs rest : List Char} (lexical : isName cs = true)
    (stops : ∀ d, rest.head? = some d → isNamePart d = false) :
    dollarLexeme (cs ++ rest) = .ok ⟨.marker (String.ofList cs), '$' :: cs, rest⟩ := by
  obtain ⟨taken, left⟩ := Text.span_append (isNamePart_of_mem_isName lexical) stops
  cases cs with
  | nil => exact nomatch lexical
  | cons d ds =>
      rw [isName, Bool.and_eq_true] at lexical
      rw [List.cons_append] at taken left ⊢
      rw [dollarLexeme, if_pos lexical.1]
      simp only [taken, left]

/-- Digits that are a code and end before something else are split off as that code. -/
theorem codeLexeme_of_isDigit (sign : List Char) {digits rest : List Char} {negative : Bool}
    {c : Code} (inClass : ∀ d ∈ digits, d.isDigit = true)
    (value : Code.ofDigits? negative digits = some c)
    (stops : ∀ d, rest.head? = some d → d.isDigit = false) :
    codeLexeme negative sign (digits ++ rest) = .ok ⟨.code c, sign ++ digits, rest⟩ := by
  obtain ⟨taken, left⟩ := Text.span_append inClass stops
  simp only [codeLexeme, taken, left, value]

/-- A digit begins an integer without a sign. -/
theorem lexeme_eq_codeLexeme {c : Char} (digit : c.isDigit = true) (cs : List Char) :
    lexeme c cs = codeLexeme false [] (c :: cs) := by
  have other (d : Char) (notDigit : d.isDigit = false) : c ≠ d := ne_of_class digit notDigit
  rw [lexeme, symbolOf?_eq_none_of_isDigit digit]
  simp only [other '"' (by decide), other '$' (by decide), other '<' (by decide),
    other '-' (by decide), digit, if_false, if_true]

/-- A dash before a digit is the sign of an integer. -/
theorem dashLexeme_eq_codeLexeme {d : Char} (digit : d.isDigit = true) (cs : List Char) :
    dashLexeme (d :: cs) = codeLexeme true ['-'] (d :: cs) := by
  have notArrow : d ≠ '>' := ne_of_class digit (by decide)
  have notDash : d ≠ '-' := ne_of_class digit (by decide)
  unfold dashLexeme
  split
  · next same => exact absurd (List.cons.inj same).1 notArrow
  · next same => exact absurd (List.cons.inj same).1 notDash
  · next same =>
      obtain ⟨rfl, rfl⟩ := List.cons.inj same
      rw [if_pos digit]
  · next same => exact nomatch same

/-- An arrow to the left is read as such unless its point to the right follows. -/
theorem lessLexeme_dash {rest : List Char} (noArrow : ∀ d, rest.head? = some d → d ≠ '>') :
    lessLexeme ('-' :: rest) = .ok ⟨.symbol .leftArrow, ['<', '-'], rest⟩ := by
  unfold lessLexeme
  split
  · next same =>
      obtain ⟨-, rfl⟩ := List.cons.inj same
      exact absurd rfl (noArrow '>' rfl)
  · next same =>
      obtain ⟨-, rfl⟩ := List.cons.inj same
      rfl
  · next other => exact (other rest rfl).elim

/-- **Characters that spell a token are split off as one lexeme** where the character after them
does not prolong it. -/
theorem lexeme_of_spells {t : Token} {c : Char} {cs rest : List Char} (spells : Spells t (c :: cs))
    (stops : ∀ d, rest.head? = some d → t.prolongs d = false) :
    lexeme c (cs ++ rest) = .ok ⟨t, c :: cs, rest⟩ := by
  generalize spelled : c :: cs = text at spells
  cases spells with
  | name lexical =>
      subst spelled
      exact lexeme_of_isName lexical stops
  | marker lexical =>
      obtain ⟨rfl, rfl⟩ := List.cons.inj spelled
      exact dollarLexeme_of_isName lexical stops
  | unsigned digits value =>
      obtain ⟨rfl, rfl⟩ := List.cons.inj spelled
      rw [lexeme_eq_codeLexeme (digits c List.mem_cons_self)]
      exact codeLexeme_of_isDigit [] digits value stops
  | @negative d ds _ digits value =>
      obtain ⟨rfl, rfl⟩ := List.cons.inj spelled
      change dashLexeme (d :: (ds ++ rest)) = _
      rw [dashLexeme_eq_codeLexeme (digits d List.mem_cons_self)]
      exact codeLexeme_of_isDigit ['-'] digits value stops
  | @quoted value text spells =>
      obtain ⟨rfl, rfl⟩ := List.cons.inj spelled
      change (quotation (text ++ ['"'] ++ rest)).map _ = _
      rw [List.append_assoc]
      change (quotation (text ++ '"' :: rest)).map _ = _
      rw [quotation_of_quoteSpells spells]
      rfl
  | symbol s =>
      cases s
      case leftArrow =>
        obtain ⟨rfl, rfl⟩ := List.cons.inj spelled
        exact lessLexeme_dash fun d next => of_decide_eq_false (stops d next)
      all_goals
        obtain ⟨rfl, rfl⟩ := List.cons.inj spelled
        rfl

/-! ### From lexemes to spellings -/

/-- A symbol that is known by one character is spelled by it. -/
theorem toList_text_of_symbolOf? {c : Char} {s : Symbol} (found : symbolOf? c = some s) :
    s.text.toList = [c] := by
  unfold symbolOf? at found
  split at found
  all_goals cases found
  all_goals rfl

/-- What is read as a code after its first digit is a sign and digits that write it. -/
theorem codeLexeme_eq_ok {negative : Bool} {sign cs : List Char} {d : Char} {l : Lexeme}
    (digit : d.isDigit = true) (read : codeLexeme negative sign (d :: cs) = .ok l) :
    ∃ c ds, l.token = .code c ∧ l.text = sign ++ d :: ds ∧ (∀ e ∈ d :: ds, e.isDigit = true) ∧
      Code.ofDigits? negative (d :: ds) = some c := by
  have digits : (d :: cs).takeWhile Char.isDigit = d :: cs.takeWhile Char.isDigit :=
    List.takeWhile_cons_of_pos digit
  simp only [codeLexeme, digits] at read
  split at read
  · next c value =>
      obtain rfl := Except.ok.inj read
      refine ⟨c, _, rfl, rfl, ?_, value⟩
      exact List.forall_mem_cons.mpr ⟨digit, List.all_eq_true.mp List.all_takeWhile⟩
  · cases read

/-- What is split off after the start of a name is a name. -/
theorem isName_takeWhile {c : Char} (start : isNameStart c = true) (cs : List Char) :
    isName ((c :: cs).takeWhile isNamePart) = true := by
  rw [List.takeWhile_cons_of_pos (isNamePart_of_isNameStart start), isName, start, Bool.true_and]
  exact List.all_takeWhile

/-- What is split off as a quoted text spells its token. -/
theorem spells_of_quotation {cs : List Char} {l : Lexeme}
    (read : (quotation cs).map (fun q =>
      (⟨.quoted (String.ofList q.value), '"' :: q.text, q.rest⟩ : Lexeme)) = .ok l) :
    Spells l.token l.text := by
  obtain ⟨q, quoted, rfl⟩ := exists_of_map_eq_ok read
  obtain ⟨text, spells, same⟩ := quoteSpells_of_quotation quoted
  simp only [same]
  exact .quoted spells

/-- What is split off behind a dollar spells its token. -/
theorem spells_of_dollarLexeme {cs : List Char} {l : Lexeme} (read : dollarLexeme cs = .ok l) :
    Spells l.token l.text := by
  unfold dollarLexeme at read
  split at read
  · split at read
    case isTrue start =>
      obtain rfl := Except.ok.inj read
      exact .marker (isName_takeWhile start _)
    case isFalse => exact nomatch read
  · exact nomatch read

/-- What is split off behind a less-than sign spells its token. -/
theorem spells_of_lessLexeme {cs : List Char} {l : Lexeme} (read : lessLexeme cs = .ok l) :
    Spells l.token l.text := by
  unfold lessLexeme at read
  split at read
  · obtain rfl := Except.ok.inj read
    exact .symbol .bothArrow
  · obtain rfl := Except.ok.inj read
    exact .symbol .leftArrow
  · exact nomatch read

/-- What is split off behind a dash, an arrow or an integer, spells its token. -/
theorem spells_of_dashLexeme {cs : List Char} {l : Lexeme} (read : dashLexeme cs = .ok l) :
    Spells l.token l.text := by
  unfold dashLexeme at read
  split at read
  · obtain rfl := Except.ok.inj read
    exact .symbol .arrow
  · obtain rfl := Except.ok.inj read
    exact .symbol .doubleDash
  · split at read
    case isTrue digit =>
      obtain ⟨c, ds, token, text, digits, value⟩ := codeLexeme_eq_ok digit read
      rw [token, text]
      exact .negative digits value
    case isFalse => exact nomatch read
  · exact nomatch read

/-- **A lexeme spells its token.** -/
theorem spells_of_lexeme {c : Char} {cs : List Char} {l : Lexeme} (read : lexeme c cs = .ok l) :
    Spells l.token l.text := by
  unfold lexeme at read
  split at read
  case h_1 s found =>
    obtain rfl := Except.ok.inj read
    rw [← toList_text_of_symbolOf? found]
    exact .symbol s
  case h_2 =>
    split_ifs at read with quote dollar less dash digit start
    · exact spells_of_quotation read
    · exact spells_of_dollarLexeme read
    · exact spells_of_lessLexeme read
    · exact spells_of_dashLexeme read
    · obtain ⟨code, ds, token, text, digits, value⟩ := codeLexeme_eq_ok digit read
      rw [token, text]
      exact .unsigned digits value
    · obtain rfl := Except.ok.inj read
      exact .name (isName_takeWhile start cs)

/-! ## Blanks between tokens -/

/-- No spelling of a token begins with a blank. -/
theorem isBlank_eq_false_of_spells {t : Token} {c : Char} {cs : List Char}
    (spells : Spells t (c :: cs)) : Text.isBlank c = false := by
  generalize spelled : c :: cs = text at spells
  cases spells with
  | name lexical =>
      rw [← spelled, isName, Bool.and_eq_true] at lexical
      exact isBlank_eq_false_of_isNameStart lexical.1
  | marker =>
      obtain ⟨rfl, -⟩ := List.cons.inj spelled
      decide
  | unsigned digits =>
      obtain ⟨rfl, -⟩ := List.cons.inj spelled
      exact Text.isBlank_eq_false_of_isDigit (digits c List.mem_cons_self)
  | negative =>
      obtain ⟨rfl, -⟩ := List.cons.inj spelled
      decide
  | quoted =>
      obtain ⟨rfl, -⟩ := List.cons.inj spelled
      decide
  | symbol s =>
      cases s
      all_goals
        obtain ⟨rfl, -⟩ := List.cons.inj spelled
        decide

/-- Every token is spelled with some character. -/
theorem ne_nil_of_spells {t : Token} {text : List Char} (spells : Spells t text) : text ≠ [] := by
  rintro rfl
  generalize spelled : [] = text at spells
  cases spells with
  | name lexical =>
      subst spelled
      exact nomatch lexical
  | symbol s =>
      cases s
      all_goals exact nomatch spelled
  | _ => exact nomatch spelled

/-- Where a lexeme can be split off no trivia stands. -/
theorem trivia_eq_none_of_lexeme {c : Char} {cs : List Char} {l : Lexeme}
    (read : lexeme c cs = .ok l) : trivia (c :: cs) = .none := by
  have solid : Text.isBlank c = false := by
    obtain ⟨d, ds, text⟩ := List.exists_cons_of_ne_nil (lexeme_text_ne_nil read)
    have front := lexeme_append read
    have spells := spells_of_lexeme read
    rw [text] at front spells
    obtain ⟨rfl, -⟩ := List.cons.inj front
    exact isBlank_eq_false_of_spells spells
  unfold trivia
  split
  · next same =>
      obtain ⟨rfl, rfl⟩ := List.cons.inj same
      exact nomatch read
  · next same =>
      obtain ⟨rfl, rfl⟩ := List.cons.inj same
      exact nomatch read
  · next same =>
      obtain ⟨rfl, rfl⟩ := List.cons.inj same
      rw [solid, if_neg Bool.false_ne_true]
  · next same => exact nomatch same

/-- A blank is trivia of its own. -/
theorem trivia_cons_of_isBlank {c : Char} (blank : Text.isBlank c = true) (cs : List Char) :
    trivia (c :: cs) = .piece [c] cs := by
  unfold trivia
  split
  · next same =>
      obtain ⟨rfl, -⟩ := List.cons.inj same
      exact absurd blank (by decide)
  · next same =>
      obtain ⟨rfl, -⟩ := List.cons.inj same
      exact absurd blank (by decide)
  · next same =>
      obtain ⟨rfl, rfl⟩ := List.cons.inj same
      rw [if_pos blank]
  · next same => exact nomatch same

/-- There is no gap where no trivia stands. -/
theorem gap_of_trivia_none {cs : List Char} (none : trivia cs = .none) :
    gap cs = ([], some cs) := by
  unfold gap
  split
  · rfl
  · next found => cases none.symm.trans found
  · next found => cases none.symm.trans found

/-- A piece of trivia is split off with what trivia follows it. -/
theorem gap_of_trivia_piece {cs text rest : List Char} (piece : trivia cs = .piece text rest) :
    gap cs = (text ++ (gap rest).1, (gap rest).2) := by
  rw [gap]
  split
  · next found => cases piece.symm.trans found
  · next found => cases piece.symm.trans found
  · next found =>
      obtain ⟨rfl, rfl⟩ := Trivia.piece.inj (piece.symm.trans found)
      rfl

/-- Blanks in front of a text belong to the gap in front of it. -/
theorem gap_append_of_isBlank {blanks : List Char} (blank : ∀ c ∈ blanks, Text.isBlank c = true)
    (cs : List Char) : gap (blanks ++ cs) = (blanks ++ (gap cs).1, (gap cs).2) := by
  induction blanks with
  | nil => rfl
  | cons c blanks ih =>
      rw [List.cons_append, gap_of_trivia_piece
        (trivia_cons_of_isBlank (blank c List.mem_cons_self) _),
        ih fun d member => blank d (List.mem_cons_of_mem c member)]
      rfl

/-- A text of nothing but trivia has no tokens. -/
theorem tokensFrom_of_gap_nil {l : Location} {cs blank : List Char}
    (front : gap cs = (blank, some [])) :
    tokensFrom l cs = .ok ⟨[], l.past blank⟩ := by
  rw [tokensFrom]
  split
  · next found => cases front.symm.trans found
  · next found =>
      obtain ⟨rfl, -⟩ := Prod.mk.inj (front.symm.trans found)
      rfl
  · next found => cases front.symm.trans found

/-- The tokens of a text are the one behind its gap, at the place where the gap ends, and those of
the rest. -/
theorem tokensFrom_of_lexeme {l : Location} {c : Char} {cs blank rest : List Char} {x : Lexeme}
    (front : gap cs = (blank, some (c :: rest))) (read : lexeme c rest = .ok x) :
    tokensFrom l cs = (tokensFrom ((l.past blank).past x.text) x.rest).map fun ts =>
      ⟨⟨x.token, l.past blank⟩ :: ts.list, ts.stop⟩ := by
  rw [tokensFrom]
  split
  · next found => cases front.symm.trans found
  · next found => cases front.symm.trans found
  · next found =>
      obtain ⟨rfl, same⟩ := Prod.mk.inj (front.symm.trans found)
      obtain ⟨rfl, rfl⟩ := List.cons.inj (Option.some.inj same)
      split
      · next failed => cases read.symm.trans failed
      · next found =>
          obtain rfl := Except.ok.inj (read.symm.trans found)
          rfl

/-- Characters that spell a token, with blanks before them and nothing after them that prolongs
the token, are the first token of a text. -/
theorem tokensFrom_append {t : Token} {text blanks rest : List Char} (spells : Spells t text)
    (blank : ∀ c ∈ blanks, Text.isBlank c = true)
    (stops : ∀ d, rest.head? = some d → t.prolongs d = false) (l : Location) :
    tokensFrom l (blanks ++ (text ++ rest)) =
      (tokensFrom ((l.past blanks).past text) rest).map fun ts =>
        ⟨⟨t, l.past blanks⟩ :: ts.list, ts.stop⟩ := by
  obtain ⟨c, cs, rfl⟩ := List.exists_cons_of_ne_nil (ne_nil_of_spells spells)
  have read := lexeme_of_spells spells stops
  have front : gap (blanks ++ (c :: cs ++ rest)) = (blanks, some (c :: (cs ++ rest))) := by
    rw [gap_append_of_isBlank blank, List.cons_append,
      gap_of_trivia_none (trivia_eq_none_of_lexeme read), List.append_nil]
  rw [tokensFrom_of_lexeme front read]

/-! ## Texts made of tokens -/

/-- Whether names and markers are made of the characters of names. -/
def Token.IsLexical : Token → Prop
  | .name s => isName s.toList = true
  | .marker s => isName s.toList = true
  | _ => True

/-- Tokens whose names and markers are made of the characters of names. -/
def Lexical (ts : List Token) : Prop := ∀ t ∈ ts, t.IsLexical

@[simp] theorem lexical_nil : Lexical [] := nofun

@[simp] theorem lexical_cons {t : Token} {ts : List Token} :
    Lexical (t :: ts) ↔ t.IsLexical ∧ Lexical ts :=
  List.forall_mem_cons

@[simp] theorem lexical_append {ts us : List Token} :
    Lexical (ts ++ us) ↔ Lexical ts ∧ Lexical us :=
  List.forall_mem_append

/-- A token that has a spelling is lexical. -/
theorem isLexical_of_spells {t : Token} {text : List Char} (spells : Spells t text) :
    t.IsLexical := by
  cases spells with
  | name lexical => simpa [Token.IsLexical] using lexical
  | marker lexical => simpa [Token.IsLexical] using lexical
  | _ => trivial

/-- The tokens of a text are lexical. -/
theorem lexical_of_tokensFrom {l : Location} {cs : List Char} {ts : Tokens}
    (read : tokensFrom l cs = .ok ts) : Lexical (ts.list.map LocatedToken.token) := by
  fun_induction tokensFrom l cs generalizing ts with
  | case1 => exact nomatch read
  | case2 =>
      obtain rfl := Except.ok.inj read
      exact nofun
  | case3 => exact nomatch read
  | case4 l cs blank c rest front x lexed ih =>
      cases further : tokensFrom ((l.past blank).past x.text) x.rest with
      | error f =>
          rw [further] at read
          exact nomatch read
      | ok ts' =>
          rw [further] at read
          obtain rfl := Except.ok.inj read
          exact lexical_cons.mpr ⟨isLexical_of_spells (spells_of_lexeme lexed), ih further⟩

/-- The letter that stands for a character behind a backslash. -/
def escapeLetter (c : Char) : Char := if c = '\n' then 'n' else if c = '\t' then 't' else c

/-- A character as it stands between quotes, where certain characters are escaped. -/
def quotedChar (escapes : List Char) (c : Char) : List Char :=
  if c ∈ escapes then ['\\', escapeLetter c] else [c]

/-- The characters that cannot stand between quotes as they are. -/
def neededEscapes : List Char := ['"', '\\', '\n']

/-- The characters that are escaped in the canonical spelling. -/
def canonicalEscapes : List Char := '\t' :: neededEscapes

/-- The spelling of a token in which certain characters are escaped between quotes. -/
def Token.spelling (escapes : List Char) : Token → List Char
  | .name s => s.toList
  | .marker s => '$' :: s.toList
  | .code c => c.text.toList
  | .quoted s => '"' :: (s.toList.flatMap (quotedChar escapes) ++ ['"'])
  | .symbol s => s.text.toList

/-- Whether all characters are escaped that have to be, and none that cannot be. -/
structure EscapesWell (escapes : List Char) : Prop where
  needed : ∀ c ∈ neededEscapes, c ∈ escapes
  readable : ∀ c ∈ escapes, escaped? (escapeLetter c) = some c

/-- Nothing but what has to be escaped needs to be. -/
theorem escapesWell_needed : EscapesWell neededEscapes where
  needed _ member := member
  readable c member := by
    simp only [neededEscapes, List.mem_cons, List.not_mem_nil, or_false] at member
    obtain rfl | rfl | rfl := member <;> rfl

/-- A tab can be escaped as well. -/
theorem escapesWell_canonical : EscapesWell canonicalEscapes where
  needed _ member := List.mem_cons_of_mem _ member
  readable c member := by
    obtain rfl | needed := List.mem_cons.mp member
    · rfl
    · exact escapesWell_needed.readable c needed

section Escapes

variable {escapes : List Char}

/-- Characters that are escaped well are read between quotes as they were. -/
theorem quoteSpells_flatMap (well : EscapesWell escapes) (value : List Char) :
    QuoteSpells value (value.flatMap (quotedChar escapes)) := by
  induction value with
  | nil => exact .nil
  | cons c value ih =>
      rw [List.flatMap_cons, quotedChar]
      split_ifs with member
      · exact .escaped (well.readable c member) ih
      · have apart (d : Char) (needed : d ∈ neededEscapes) : c ≠ d := by
          rintro rfl
          exact member (well.needed c needed)
        exact .verbatim (apart _ (by decide)) (apart _ (by decide)) (apart _ (by decide)) ih

/-- A lexical token is spelled by any of its spellings. -/
theorem spells_spelling (well : EscapesWell escapes) {t : Token} (lexical : t.IsLexical) :
    Spells t (t.spelling escapes) := by
  cases t with
  | name s =>
      have spells := Spells.name lexical
      rwa [String.ofList_toList] at spells
  | marker s =>
      have spells := Spells.marker lexical
      rwa [String.ofList_toList] at spells
  | code c =>
      have inClass : ∀ e ∈ Nat.toDigits 10 c.toInt.natAbs, e.isDigit = true :=
        fun _ member => Code.isDigit_of_mem_toDigits member
      obtain ⟨d, ds, digits⟩ := List.exists_cons_of_ne_nil
        (Nat.toDigits_ne_nil (b := 10) (n := c.toInt.natAbs))
      rw [digits] at inClass
      rw [Token.spelling, Code.toList_text, digits]
      split
      case isTrue below =>
        refine .negative inClass ?_
        rw [← digits]
        exact Code.ofDigits?_toDigits c (decide_eq_true below).symm
      case isFalse notBelow =>
        refine .unsigned inClass ?_
        rw [← digits]
        exact Code.ofDigits?_toDigits c (decide_eq_false notBelow).symm
  | quoted s =>
      have spells := Spells.quoted (quoteSpells_flatMap well s.toList)
      rwa [String.ofList_toList] at spells
  | symbol s => exact .symbol s

end Escapes

/-- What stands between a token and the next one: nothing around a dot and before a comma or a
semicolon, a line break after a semicolon or a brace, and else a blank. -/
def pause (t : Token) (next : Option Token) : List Char :=
  if t = .symbol .dot ∨ next ∈ [some (.symbol .dot), some (.symbol .comma), some (.symbol .semicolon)]
  then []
  else if t ∈ [.symbol .semicolon, .symbol .leftBrace, .symbol .rightBrace] then ['\n']
  else [' ']

/-- Tokens written one after another. -/
def layout : List Token → List Char
  | [] => []
  | t :: ts => t.spelling canonicalEscapes ++ (pause t ts.head? ++ layout ts)

/-- Tokens are kept apart by blanks only. -/
theorem isBlank_of_mem_pause (t : Token) (next : Option Token) {c : Char}
    (member : c ∈ pause t next) :
    Text.isBlank c = true := by
  unfold pause at member
  split at member
  case isTrue => exact nomatch member
  case isFalse =>
    split at member
    all_goals
      rw [List.mem_singleton] at member
      rw [member]
      decide

/-- What follows a token in a layout does not prolong it. -/
theorem prolongs_eq_false_of_layout {t : Token} {ts : List Token} {c : Char}
    (first : (pause t ts.head? ++ layout ts).head? = some c) : t.prolongs c = false := by
  have harmless (d : Char) (pauses : d ∈ ['.', ',', ';', '\n', ' ']) : t.prolongs d = false := by
    simp only [List.mem_cons, List.not_mem_nil, or_false] at pauses
    rcases pauses with rfl | rfl | rfl | rfl | rfl
    all_goals
      cases t with
      | symbol s => cases s <;> rfl
      | _ => rfl
  unfold pause at first
  split at first
  case isTrue hugs =>
    rcases hugs with rfl | hugs
    · rfl
    · cases ts with
      | nil => exact nomatch first
      | cons u ts =>
          simp only [List.head?_cons, List.mem_cons, Option.some.injEq, List.not_mem_nil,
            or_false] at hugs
          rcases hugs with rfl | rfl | rfl
          all_goals
            obtain rfl := Option.some.inj first
            exact harmless _ (by decide)
  case isFalse =>
    split at first
    all_goals
      rw [List.cons_append, List.head?_cons, Option.some.injEq] at first
      exact first ▸ harmless _ (by decide)

/-- The tokens of a layout behind blanks are those that were laid out, wherever the text is said to
begin. -/
theorem tokensFrom_layout {ts : List Token} (lexical : Lexical ts) (blanks : List Char)
    (blank : ∀ c ∈ blanks, Text.isBlank c = true) (l : Location) :
    ∃ tokens, tokensFrom l (blanks ++ layout ts) = .ok tokens ∧
      tokens.list.map LocatedToken.token = ts := by
  induction ts generalizing blanks l with
  | nil =>
      have front : gap (blanks ++ layout []) = (blanks, some []) := by
        rw [gap_append_of_isBlank blank, layout, gap_of_trivia_none (by rfl), List.append_nil]
      exact ⟨_, tokensFrom_of_gap_nil front, rfl⟩
  | cons t ts ih =>
      obtain ⟨first, others⟩ := lexical_cons.mp lexical
      obtain ⟨tokens, further, same⟩ := ih others (pause t ts.head?)
        (fun c member => isBlank_of_mem_pause t ts.head? member)
        ((l.past blanks).past (t.spelling canonicalEscapes))
      refine ⟨⟨⟨t, l.past blanks⟩ :: tokens.list, tokens.stop⟩, ?_, ?_⟩
      · rw [layout, tokensFrom_append (spells_spelling escapesWell_canonical first) blank
          (fun d next => prolongs_eq_false_of_layout next), further]
        rfl
      · rw [List.map_cons, same]

/-- **Tokens can be written as a text:** the text has these tokens. -/
theorem tokenize_layout {ts : List Token} (lexical : Lexical ts) :
    ∃ tokens, tokenize (String.ofList (layout ts)) = .ok tokens ∧
      tokens.list.map LocatedToken.token = ts := by
  rw [tokenize, String.toList_ofList]
  exact tokensFrom_layout lexical [] nofun .start

end Crossmap.Mapping
