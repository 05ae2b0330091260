import Crossmap.Proofs.Mapping.Spelling

/-! # Texts lexed line after line

`Lexes cs ts` says that the text `cs` is made of the tokens `ts`, whatever their places are
(`hasTokens_iff_lexes`). No lexeme, no blank and no comment goes on over a line break that
stands after it, so that a text on further lines adds its own tokens (`Lexes.append_line`).
-/

namespace Crossmap.Mapping

/-! ## Tokens without places -/

/-- The tokens of a text. -/
inductive Lexes : List Char → List Token → Prop
  | done {cs : List Char} (front : (gap cs).2 = some []) : Lexes cs []
  | token {cs : List Char} {c : Char} {rest : List Char} {x : Lexeme} {ts : List Token}
      (front : (gap cs).2 = some (c :: rest)) (first : lexeme c rest = .ok x)
      (further : Lexes x.rest ts) : Lexes cs (x.token :: ts)

/-- The tokens that are read off a text are those it is made of. -/
theorem lexes_of_tokensFrom {l : Location} {cs : List Char} {tokens : Tokens}
    (read : tokensFrom l cs = .ok tokens) : Lexes cs (tokens.list.map LocatedToken.token) := by
  fun_induction tokensFrom l cs generalizing tokens with
  | case1 => cases read
  | case2 l cs blank front =>
      obtain rfl := Except.ok.inj read
      exact .done (congrArg Prod.snd front)
  | case3 => cases read
  | case4 l cs blank c rest front x first ih =>
      obtain ⟨others, further, rfl⟩ := exists_of_map_eq_ok read
      exact .token (congrArg Prod.snd front) first (ih further)

/-- A text that is made of tokens is read as these tokens, wherever it begins. -/
theorem Lexes.exists_tokensFrom {cs : List Char} {ts : List Token} (lexes : Lexes cs ts)
    (l : Location) :
    ∃ tokens, tokensFrom l cs = .ok tokens ∧ tokens.list.map LocatedToken.token = ts := by
  induction lexes generalizing l with
  | done front => exact ⟨_, tokensFrom_of_gap_nil (Prod.ext rfl front), rfl⟩
  | @token cs c rest x ts front first _ ih =>
      obtain ⟨tokens, further, rfl⟩ := ih ((l.past (gap cs).1).past x.text)
      exact ⟨_, by rw [tokensFrom_of_lexeme (Prod.ext rfl front) first, further]; rfl, rfl⟩

/-- Whether a text is made of certain tokens. -/
def HasTokens (text : String) (ts : List Token) : Prop :=
  ∃ tokens, tokenize text = .ok tokens ∧ tokens.list.map LocatedToken.token = ts

/-- To have tokens is to be made of them. -/
theorem hasTokens_iff_lexes {text : String} {ts : List Token} :
    HasTokens text ts ↔ Lexes text.toList ts := by
  constructor
  · rintro ⟨tokens, read, rfl⟩
    exact lexes_of_tokensFrom read
  · intro lexes
    exact lexes.exists_tokensFrom .start

/-! ## Further lines -/

/-- What a class of characters takes off a text is not more where a character that is not of the
class comes after the text. -/
theorem span_append_cons {p : Char → Bool} {d : Char} (outside : p d = false)
    (cs rest : List Char) :
    (cs ++ d :: rest).takeWhile p = cs.takeWhile p ∧
      (cs ++ d :: rest).dropWhile p = cs.dropWhile p ++ d :: rest := by
  induction cs with
  | nil => simp [outside]
  | cons c cs ih =>
      rw [List.cons_append]
      by_cases inClass : p c = true
      · simp only [List.takeWhile_cons_of_pos inClass, List.dropWhile_cons_of_pos inClass, ih,
          and_self]
      · simp only [List.takeWhile_cons_of_neg inClass, List.dropWhile_cons_of_neg inClass,
          List.cons_append, and_self]

/-- A comment that is closed is closed at the same place whatever follows. -/
theorem commentBody?_append_right {cs body rest : List Char}
    (closed : commentBody? cs = some (body, rest)) (further : List Char) :
    commentBody? (cs ++ further) = some (body, rest ++ further) := by
  fun_induction commentBody? cs generalizing body with
  | case1 => cases closed
  | case2 cs =>
      obtain ⟨rfl, rfl⟩ := Prod.mk.inj (Option.some.inj closed)
      rfl
  | case3 c cs notEnd ih =>
      obtain ⟨r, inner, same⟩ := Option.map_eq_some_iff.mp closed
      obtain ⟨rfl, rfl⟩ := Prod.mk.inj same
      rw [List.cons_append, commentBody?, ih inner]
      · rfl
      · rintro ds rfl ends
        cases cs with
        | nil => cases inner
        | cons d cs =>
            obtain ⟨rfl, -⟩ := List.cons.inj ends
            exact notEnd cs rfl rfl

/-- A piece of trivia ends before the line that comes after a text. -/
theorem trivia_append_line {cs text rest : List Char} (piece : trivia cs = .piece text rest)
    (further : List Char) :
    trivia (cs ++ '\n' :: further) = .piece text (rest ++ '\n' :: further) := by
  unfold trivia at piece
  split at piece
  · next cs =>
      obtain ⟨rfl, rfl⟩ := Trivia.piece.inj piece
      obtain ⟨taken, left⟩ := span_append_cons (p := (· ≠ '\n')) (d := '\n') (by decide) cs further
      change Trivia.piece ('!' :: '!' :: lineRest (cs ++ '\n' :: further))
        (afterLine (cs ++ '\n' :: further)) = _
      rw [lineRest, afterLine, taken, left]
      rfl
  · next cs =>
      split at piece
      · next body rest closed =>
          obtain ⟨rfl, rfl⟩ := Trivia.piece.inj piece
          rw [List.cons_append, List.cons_append, trivia,
            commentBody?_append_right closed ('\n' :: further)]
      · cases piece
  · next c cs _ _ =>
      split at piece
      · next blank =>
          obtain ⟨rfl, rfl⟩ := Trivia.piece.inj piece
          exact trivia_cons_of_isBlank blank _
      · cases piece
  · cases piece

/-- Where no trivia begins, none does for the sake of a further line. -/
theorem trivia_append_line_of_none {c : Char} {cs : List Char} (none : trivia (c :: cs) = .none)
    (further : List Char) : trivia (c :: cs ++ '\n' :: further) = .none := by
  have solid : ¬ Text.isBlank c = true := by
    intro blank
    rw [trivia_cons_of_isBlank blank] at none
    cases none
  unfold trivia
  split
  · next same =>
      cases cs with
      | nil => cases (List.cons.inj (List.cons.inj same).2).1
      | cons d cs =>
          simp only [List.cons_append, List.cons.injEq] at same
          obtain ⟨rfl, rfl, -⟩ := same
          cases none
  · next same =>
      cases cs with
      | nil => cases (List.cons.inj (List.cons.inj same).2).1
      | cons d cs =>
          simp only [List.cons_append, List.cons.injEq] at same
          obtain ⟨rfl, rfl, -⟩ := same
          rw [trivia] at none
          split at none
          · cases none
          · cases none
  · next same =>
      obtain ⟨rfl, -⟩ := List.cons.inj same
      rw [if_neg solid]
  · next same => cases same

/-- The trivia at the front of a text goes on over further lines only if nothing else is left. -/
theorem gap_append_line {cs rest : List Char} (front : (gap cs).2 = some rest)
    (further : List Char) :
    (gap (cs ++ '\n' :: further)).2 =
      if rest = [] then (gap further).2 else some (rest ++ '\n' :: further) := by
  fun_induction gap cs with
  | case1 cs none =>
      obtain rfl := Option.some.inj front
      cases cs with
      | nil =>
          rw [List.nil_append, gap_of_trivia_piece (trivia_cons_of_isBlank (by decide) further)]
          rfl
      | cons c cs =>
          rw [gap_of_trivia_none (trivia_append_line_of_none none further)]
          rfl
  | case2 => cases front
  | case3 cs text rest' piece more ih =>
      rw [gap_of_trivia_piece (trivia_append_line piece further)]
      exact ih front

/-! ## Lexemes are longest -/

theorem head?_dropWhile {p : Char → Bool} {cs : List Char} {d : Char}
    (next : (cs.dropWhile p).head? = some d) : p d = false := by
  have first := List.head?_dropWhile_not p cs
  rwa [next] at first

/-- The character after an integer would not have continued it. -/
theorem prolongs_of_codeLexeme {negative : Bool} {sign cs : List Char} {x : Lexeme}
    (read : codeLexeme negative sign cs = .ok x) {d : Char} (next : x.rest.head? = some d) :
    x.token.prolongs d = false := by
  simp only [codeLexeme] at read
  split at read
  · obtain rfl := Except.ok.inj read
    exact head?_dropWhile next
  · cases read

/-- The character after a marker would not have continued it. -/
theorem prolongs_of_dollarLexeme {cs : List Char} {x : Lexeme} (read : dollarLexeme cs = .ok x)
    {d : Char} (next : x.rest.head? = some d) : x.token.prolongs d = false := by
  unfold dollarLexeme at read
  split at read
  · split at read
    · obtain rfl := Except.ok.inj read
      exact head?_dropWhile next
    · cases read
  · cases read

/-- An arrow to the left is not followed by what would make it point both ways. -/
theorem prolongs_of_lessLexeme {cs : List Char} {x : Lexeme} (read : lessLexeme cs = .ok x)
    {d : Char} (next : x.rest.head? = some d) : x.token.prolongs d = false := by
  unfold lessLexeme at read
  split at read
  · obtain rfl := Except.ok.inj read
    rfl
  · next cs notBoth =>
      obtain rfl := Except.ok.inj read
      refine decide_eq_false fun same => ?_
      cases cs with
      | nil => cases next
      | cons e cs =>
          obtain rfl := Option.some.inj next
          exact notBoth cs (congrArg (· :: cs) same)
  · cases read

/-- The character after an arrow or a negative integer would not have continued it. -/
theorem prolongs_of_dashLexeme {cs : List Char} {x : Lexeme} (read : dashLexeme cs = .ok x)
    {d : Char} (next : x.rest.head? = some d) : x.token.prolongs d = false := by
  unfold dashLexeme at read
  split at read
  · obtain rfl := Except.ok.inj read
    rfl
  · obtain rfl := Except.ok.inj read
    rfl
  · split at read
    · exact prolongs_of_codeLexeme read next
    · cases read
  · cases read

/-- Symbols of one character are not continued by anything. -/
theorem prolongs_of_symbolOf? {c : Char} {s : Symbol} (found : symbolOf? c = some s) (d : Char) :
    (Token.symbol s).prolongs d = false := by
  unfold symbolOf? at found
  split at found
  all_goals cases found
  all_goals rfl

/-- The character after a lexeme does not prolong its token. -/
theorem prolongs_of_lexeme {c : Char} {cs : List Char} {x : Lexeme} (read : lexeme c cs = .ok x)
    (d : Char) (next : x.rest.head? = some d) : x.token.prolongs d = false := by
  unfold lexeme at read
  split at read
  case h_1 s found =>
    obtain rfl := Except.ok.inj read
    exact prolongs_of_symbolOf? found d
  case h_2 =>
    split_ifs at read with quote dollar less dash digit start
    · obtain ⟨q, -, rfl⟩ := exists_of_map_eq_ok read
      rfl
    · exact prolongs_of_dollarLexeme read next
    · exact prolongs_of_lessLexeme read next
    · exact prolongs_of_dashLexeme read next
    · exact prolongs_of_codeLexeme read next
    · obtain rfl := Except.ok.inj read
      exact head?_dropWhile next

/-- No lexeme goes on over a line break. -/
theorem prolongs_lineBreak (t : Token) : t.prolongs '\n' = false := by
  cases t with
  | symbol s => cases s <;> rfl
  | _ => rfl

/-- A lexeme ends before the line that comes after a text. -/
theorem lexeme_append_line {c : Char} {cs : List Char} {x : Lexeme} (read : lexeme c cs = .ok x)
    (further : List Char) :
    lexeme c (cs ++ '\n' :: further) = .ok ⟨x.token, x.text, x.rest ++ '\n' :: further⟩ := by
  obtain ⟨d, ds, text⟩ := List.exists_cons_of_ne_nil (lexeme_text_ne_nil read)
  have spells := spells_of_lexeme read
  have front := lexeme_append read
  rw [text] at spells front
  rw [List.cons_append] at front
  obtain ⟨rfl, rfl⟩ := List.cons.inj front
  rw [text, List.append_assoc]
  apply lexeme_of_spells spells
  intro e next
  cases left : x.rest with
  | nil =>
      rw [left] at next
      obtain rfl := Option.some.inj next
      exact prolongs_lineBreak x.token
  | cons f rest =>
      rw [left] at next
      exact prolongs_of_lexeme read e (by rw [left]; exact next)

/-- **A text on further lines adds its own tokens.** -/
theorem Lexes.append_line {cs further : List Char} {ts us : List Token} (first : Lexes cs ts)
    (second : Lexes further us) : Lexes (cs ++ '\n' :: further) (ts ++ us) := by
  induction first with
  | done front =>
      have same := gap_append_line front further
      rw [if_pos rfl] at same
      cases second with
      | done front' => exact .done (same.trans front')
      | token front' read rest => exact .token (same.trans front') read rest
  | @token cs c rest x ts front read _ ih =>
      have same := gap_append_line front further
      rw [if_neg (List.cons_ne_nil c rest), List.cons_append] at same
      exact .token (x := ⟨x.token, x.text, x.rest ++ '\n' :: further⟩) same
        (lexeme_append_line read further) ih

/-- A text followed by another on further lines has the tokens of both. -/
theorem HasTokens.append_line {a b : String} {ts us : List Token} (first : HasTokens a ts)
    (second : HasTokens b us) : HasTokens (a ++ "\n" ++ b) (ts ++ us) := by
  rw [hasTokens_iff_lexes] at first second ⊢
  have line : (a ++ "\n" ++ b).toList = a.toList ++ '\n' :: b.toList := by
    rw [String.toList_append, String.toList_append, List.append_assoc]
    rfl
  rw [line]
  exact first.append_line second

end Crossmap.Mapping
