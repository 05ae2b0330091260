import Crossmap.Mapping.Token
import Crossmap.Text.Blank

/-!
# Lexemes of mapping texts

A mapping text is a row of lexemes with trivia between them: white space, comments from `!!` to the
end of the line, and comments between `/*` and `*/`. `gap` splits the trivia off the front of a
text and `lexeme` one lexeme, each with its spelling, so that a text is the concatenation of what
was split off (`gap_append`, `lexeme_append`). `tokenize` repeats the two and gives every token the
place of its first character.
-/

namespace Crossmap.Mapping

/-! ## Trivia -/

/-- The rest of a comment up to `*/`, and what follows it; `none` when it is not closed. -/
def commentBody? : List Char → Option (List Char × List Char)
  | [] => none
  | '*' :: '/' :: cs => some (['*', '/'], cs)
  | c :: cs => (commentBody? cs).map fun r => (c :: r.1, r.2)

/-- A comment's body and what follows it are the text. -/
theorem commentBody?_append {cs body rest : List Char} (h : commentBody? cs = some (body, rest)) :
    body ++ rest = cs := by
  fun_induction commentBody? cs generalizing body rest with
  | case1 => simp at h
  | case2 cs => simp at h; simp [← h.1, ← h.2]
  | case3 c cs _ ih =>
    obtain ⟨r, hr, heq⟩ := Option.map_eq_some_iff.1 h
    simp only [Prod.mk.injEq] at heq
    rw [← heq.1, ← heq.2, List.cons_append, ih hr]

/-- The text of a line comment after `!!`. -/
def lineRest (cs : List Char) : List Char := cs.takeWhile (· ≠ '\n')

/-- What follows a line comment. -/
def afterLine (cs : List Char) : List Char := cs.dropWhile (· ≠ '\n')

/-- One piece of trivia at the front of a text. -/
inductive Trivia where
  /-- The text does not begin with trivia. -/
  | none
  /-- A blank or a comment, and what follows it. -/
  | piece (text rest : List Char)
  | unclosed

/-- The piece of trivia at the front. -/
def trivia : List Char → Trivia
  | '!' :: '!' :: cs => .piece ('!' :: '!' :: lineRest cs) (afterLine cs)
  | '/' :: '*' :: cs =>
    match commentBody? cs with
    | some (body, rest) => .piece ('/' :: '*' :: body) rest
    | .none => .unclosed
  | c :: cs => if Text.isBlank c then .piece [c] cs else .none
  | [] => .none

/-- A piece of trivia and what follows it are the text, and the piece is not empty. -/
theorem trivia_append {cs text rest : List Char} (h : trivia cs = .piece text rest) :
    text ++ rest = cs ∧ text ≠ [] := by
  unfold trivia at h
  split at h
  · simp only [Trivia.piece.injEq] at h
    rw [← h.1, ← h.2]
    exact ⟨by simp [lineRest, afterLine, List.takeWhile_append_dropWhile], by simp⟩
  · split at h
    · rename_i hb
      simp only [Trivia.piece.injEq] at h
      rw [← h.1, ← h.2]
      exact ⟨by simp [commentBody?_append hb], by simp⟩
    · simp at h
  · split at h
    · simp only [Trivia.piece.injEq] at h
      rw [← h.1, ← h.2]
      exact ⟨by simp, by simp⟩
    · simp at h
  · simp at h

/-- The trivia at the front of a text and what follows it; `none` in place of what follows when
the trivia ends before a comment that is not closed. -/
def gap (cs : List Char) : List Char × Option (List Char) :=
  match _h : trivia cs with
  | .none => ([], some cs)
  | .unclosed => ([], .none)
  | .piece text rest =>
    let more := gap rest
    (text ++ more.1, more.2)
termination_by cs.length
decreasing_by
  obtain ⟨happ, hne⟩ := trivia_append _h
  have := List.length_pos_iff.mpr hne
  rw [← happ, List.length_append]
  omega

/-- The trivia and what follows it are the text. -/
theorem gap_append {cs rest : List Char} (h : (gap cs).2 = some rest) :
    (gap cs).1 ++ rest = cs := by
  fun_induction gap cs with
  | case1 cs _ => simpa using h.symm
  | case2 => simp at h
  | case3 cs text rest' ht more ih =>
    rw [← (trivia_append ht).1, List.append_assoc, ih h]

/-! ## Lexemes -/

/-- A lexeme at the front of a text. -/
structure Lexeme where
  token : Token
  text : List Char
  rest : List Char

/-- A text in quotes, read after the opening quote. -/
structure Quotation where
  value : List Char
  /-- The characters that write it, the closing quote included. -/
  text : List Char
  rest : List Char

/-- A quotation with one more character before it, and the characters that write that one. -/
def Quotation.after (c : Char) (spelling : List Char) (q : Quotation) : Quotation :=
  ⟨c :: q.value, spelling ++ q.text, q.rest⟩

/-- The character that a letter after a backslash means. -/
def escaped? : Char → Option Char
  | '"' => some '"'
  | '\\' => some '\\'
  | 'n' => some '\n'
  | 't' => some '\t'
  | _ => none

/-- Reads a text in quotes after the opening quote. -/
def quotation : List Char → Except Fault Quotation
  | [] => .error .openQuote
  | '"' :: cs => .ok ⟨[], ['"'], cs⟩
  | '\n' :: _ => .error .openQuote
  | '\\' :: e :: cs =>
    match escaped? e with
    | some c => (quotation cs).map (Quotation.after c ['\\', e])
    | none => .error (.badEscape e)
  | ['\\'] => .error .openQuote
  | c :: cs => (quotation cs).map (Quotation.after c [c])

/-- Reads an integer code whose spelling begins with `sign`. -/
def codeLexeme (negative : Bool) (sign cs : List Char) : Except Fault Lexeme :=
  let digits := cs.takeWhile Char.isDigit
  match Code.ofDigits? negative digits with
  | some c => .ok ⟨.code c, sign ++ digits, cs.dropWhile Char.isDigit⟩
  | none => .error (.codeOutOfRange negative digits)

/-- A symbol of one character. -/
def symbolOf? : Char → Option Symbol
  | '{' => some .leftBrace
  | '}' => some .rightBrace
  | '(' => some .leftParen
  | ')' => some .rightParen
  | ';' => some .semicolon
  | ',' => some .comma
  | '.' => some .dot
  | '~' => some .tilde
  | '=' => some .equals
  | _ => none

/-- Reads what begins with `<`. -/
def lessLexeme : List Char → Except Fault Lexeme
  | '-' :: '>' :: cs => .ok ⟨.symbol .bothArrow, ['<', '-', '>'], cs⟩
  | '-' :: cs => .ok ⟨.symbol .leftArrow, ['<', '-'], cs⟩
  | _ => .error .bareLess

/-- Reads what begins with `-`. -/
def dashLexeme : List Char → Except Fault Lexeme
  | '>' :: cs => .ok ⟨.symbol .arrow, ['-', '>'], cs⟩
  | '-' :: cs => .ok ⟨.symbol .doubleDash, ['-', '-'], cs⟩
  | c :: cs =>
    if c.isDigit then codeLexeme true ['-'] (c :: cs) else .error (.strayChar '-')
  | [] => .error (.strayChar '-')

/-- Reads what begins with `$`. -/
def dollarLexeme : List Char → Except Fault Lexeme
  | c :: cs =>
    if isNameStart c then
      let name := (c :: cs).takeWhile isNamePart
      .ok ⟨.marker (String.ofList name), '$' :: name, (c :: cs).dropWhile isNamePart⟩
    else .error .bareDollar
  | [] => .error .bareDollar

/-- Reads the lexeme that begins with `c` and goes on in `cs`. -/
def lexeme (c : Char) (cs : List Char) : Except Fault Lexeme :=
  match symbolOf? c with
  | some s => .ok ⟨.symbol s, [c], cs⟩
  | none =>
    if c = '"' then
      (quotation cs).map fun q => ⟨.quoted (String.ofList q.value), '"' :: q.text, q.rest⟩
    else if c = '$' then dollarLexeme cs
    else if c = '<' then lessLexeme cs
    else if c = '-' then dashLexeme cs
    else if c.isDigit then codeLexeme false [] (c :: cs)
    else if isNameStart c then
      let name := (c :: cs).takeWhile isNamePart
      .ok ⟨.name (String.ofList name), name, (c :: cs).dropWhile isNamePart⟩
    else .error (.strayChar c)

/-- A quotation and what follows it are the text. -/
theorem quotation_append {cs : List Char} {q : Quotation} (h : quotation cs = .ok q) :
    q.text ++ q.rest = cs := by
  fun_induction quotation cs generalizing q with
  | case1 => simp at h
  | case2 cs => simp only [Except.ok.injEq] at h; simp [← h]
  | case3 => simp at h
  | case4 e cs c _ ih =>
    cases hq : quotation cs with
    | error f => simp [hq, Except.map] at h
    | ok r =>
      simp only [hq, Except.map, Except.ok.injEq] at h
      simp [← h, Quotation.after, ih hq]
  | case5 => simp at h
  | case6 => simp at h
  | case7 c cs _ _ _ _ ih =>
    cases hq : quotation cs with
    | error f => simp [hq, Except.map] at h
    | ok r =>
      simp only [hq, Except.map, Except.ok.injEq] at h
      simp [← h, Quotation.after, ih hq]

/-- A code is spelled by its sign and all the digits at the front. -/
theorem codeLexeme_text {negative : Bool} {sign cs : List Char} {l : Lexeme}
    (h : codeLexeme negative sign cs = .ok l) : l.text = sign ++ cs.takeWhile Char.isDigit := by
  simp only [codeLexeme] at h
  split at h
  · simp only [Except.ok.injEq] at h
    simp [← h]
  · simp at h

/-- A code and what follows it are the text. -/
theorem codeLexeme_append {negative : Bool} {sign cs : List Char} {l : Lexeme}
    (h : codeLexeme negative sign cs = .ok l) : l.text ++ l.rest = sign ++ cs := by
  simp only [codeLexeme] at h
  split at h
  · simp only [Except.ok.injEq] at h
    simp [← h, List.takeWhile_append_dropWhile]
  · simp at h

/-- A lexeme and what follows it are the text. -/
theorem lexeme_append {c : Char} {cs : List Char} {l : Lexeme} (h : lexeme c cs = .ok l) :
    l.text ++ l.rest = c :: cs := by
  unfold lexeme at h
  split at h
  · simp only [Except.ok.injEq] at h
    simp [← h]
  · split at h
    · rename_i hc
      cases hq : quotation cs with
      | error f => simp [hq, Except.map] at h
      | ok q =>
        simp only [hq, Except.map, Except.ok.injEq] at h
        simp [← h, hc, quotation_append hq]
    · split at h
      · rename_i hc
        unfold dollarLexeme at h
        split at h
        · split at h
          · simp only [Except.ok.injEq] at h
            simp [← h, hc, List.takeWhile_append_dropWhile]
          · simp at h
        · simp at h
      · split at h
        · rename_i hc
          unfold lessLexeme at h
          split at h
          · simp only [Except.ok.injEq] at h
            simp [← h, hc]
          · simp only [Except.ok.injEq] at h
            simp [← h, hc]
          · simp at h
        · split at h
          · rename_i hc
            unfold dashLexeme at h
            split at h
            · simp only [Except.ok.injEq] at h
              simp [← h, hc]
            · simp only [Except.ok.injEq] at h
              simp [← h, hc]
            · split at h
              · simpa [hc] using codeLexeme_append h
              · simp at h
            · simp at h
          · split at h
            · simpa using codeLexeme_append h
            · split at h
              · simp only [Except.ok.injEq] at h
                simp [← h, List.takeWhile_append_dropWhile]
              · simp at h

/-- A name can go on with whatever it can begin with. -/
theorem isNamePart_of_isNameStart {c : Char} (h : isNameStart c) : isNamePart c := by
  simp only [isNameStart, isNamePart, Char.isAlphanum, Bool.or_eq_true] at h ⊢
  exact h.imp_left Or.inl

/-- A lexeme is not empty. -/
theorem lexeme_text_ne_nil {c : Char} {cs : List Char} {l : Lexeme} (h : lexeme c cs = .ok l) :
    l.text ≠ [] := by
  unfold lexeme at h
  split at h
  · simp only [Except.ok.injEq] at h
    simp [← h]
  · split at h
    · cases hq : quotation cs with
      | error f => simp [hq, Except.map] at h
      | ok q =>
        simp only [hq, Except.map, Except.ok.injEq] at h
        simp [← h]
    · split at h
      · unfold dollarLexeme at h
        split at h
        · split at h
          · simp only [Except.ok.injEq] at h
            simp [← h]
          · simp at h
        · simp at h
      · split at h
        · unfold lessLexeme at h
          split at h <;> simp only [Except.ok.injEq, reduceCtorEq] at h
          · simp [← h]
          · simp [← h]
        · split at h
          · unfold dashLexeme at h
            split at h <;> try simp only [Except.ok.injEq, reduceCtorEq] at h
            · simp [← h]
            · simp [← h]
            · split at h
              · simp [codeLexeme_text h]
              · simp at h
          · split at h
            · rename_i hd
              simp [codeLexeme_text h, hd]
            · split at h
              · rename_i hn
                simp only [Except.ok.injEq] at h
                simp [← h, isNamePart_of_isNameStart hn]
              · simp at h

/-- What follows a lexeme is shorter than the text. -/
theorem lexeme_rest_length {c : Char} {cs : List Char} {l : Lexeme} (h : lexeme c cs = .ok l) :
    l.rest.length ≤ cs.length := by
  have happ := congrArg List.length (lexeme_append h)
  have := List.length_pos_iff.mpr (lexeme_text_ne_nil h)
  simp only [List.length_append, List.length_cons] at happ
  omega

/-! ## Tokens -/

/-- A token and the place of its first character. -/
structure LocatedToken where
  token : Token
  location : Location
  deriving DecidableEq, Inhabited

/-- The tokens of a text and the place of its end. -/
structure Tokens where
  list : List LocatedToken
  /-- The place after the last character. -/
  stop : Location
  deriving DecidableEq, Inhabited

/-- A fault and its place. -/
structure LocatedFault where
  fault : Fault
  /-- The place of the first character of what cannot be read. -/
  location : Location
  deriving DecidableEq, Inhabited

/-- The tokens of a text that begins at a place. -/
def tokensFrom (l : Location) (cs : List Char) : Except LocatedFault Tokens :=
  match _hg : gap cs with
  | (blank, none) => .error ⟨.openComment, l.past blank⟩
  | (blank, some []) => .ok ⟨[], l.past blank⟩
  | (blank, some (c :: rest)) =>
    match _hl : lexeme c rest with
    | .error f => .error ⟨f, l.past blank⟩
    | .ok x =>
      (tokensFrom ((l.past blank).past x.text) x.rest).map fun ts =>
        ⟨⟨x.token, l.past blank⟩ :: ts.list, ts.stop⟩
termination_by cs.length
decreasing_by
  have hrest : (gap cs).2 = some (c :: rest) := by rw [_hg]
  have happ := congrArg List.length (gap_append hrest)
  have := lexeme_rest_length _hl
  simp only [List.length_append, List.length_cons] at happ
  omega

/-- The tokens of a text. -/
def tokenize (s : String) : Except LocatedFault Tokens := tokensFrom .start s.toList

end Crossmap.Mapping
