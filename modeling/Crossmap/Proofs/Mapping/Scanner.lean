import Crossmap.Mapping.Lexeme
import Crossmap.Proofs.Mapping.Rounds

/-! # Scanning with a cursor

`Scanner.tokenize` scans a text as a program does that keeps a position, a line and a column and
moves them on one character at a time; the end of the text is a mark of its own behind the tokens.
Every loop of it is a `Machine.loop`, so that every round is held to move the cursor on. With fuel
for two rounds a character it finds the tokens that `tokenize` finds (`run_tokenize`).
-/

namespace Crossmap.Mapping

/-- A token of a text or the end of it, and its place. -/
structure Mark where
  /-- None at the end. -/
  token : Option Token
  location : Location
  deriving DecidableEq, Inhabited

/-- The tokens of a text and behind them the mark of its end. -/
def Tokens.marks (ts : Tokens) : List Mark :=
  ts.list.map (fun t => ⟨some t.token, t.location⟩) ++ [⟨none, ts.stop⟩]

@[simp] theorem Tokens.length_marks (ts : Tokens) : ts.marks.length = ts.list.length + 1 := by
  simp [marks]

/-- A reading of characters, which keeps line and column along. -/
abbrev Scanner := Machine Location LocatedFault

namespace Scanner

/-! ## The scanner -/

section Definitions

variable {α : Type} (text : List Char)

/-- The character some places ahead, which is not taken. -/
def peekAt (n : Nat) : Scanner (Option Char) where
  run c := .done (text[c.pos + n]?, c)
  fuel_le h := by cases h; exact Nat.le_refl _

/-- Takes the next character if there is one. -/
def bump : Scanner (Option Char) where
  run c :=
    match text[c.pos]? with
    | some x => .done (some x, ⟨c.pos + 1, c.fuel, c.place.next x⟩)
    | none => .done (none, c)
  fuel_le {c a c'} h := by
    split at h <;> cases h <;> exact Nat.le_refl _

/-- Refuses the text for what begins at a place. -/
def refuse (start : Location) (f : Fault) : Scanner α := .fail ⟨f, start⟩

/-- Takes a character that is of a class. -/
def takeRound (p : Char → Bool) (taken : List Char) :
    Scanner (Machine.Round (List Char) (List Char)) := do
  match ← peekAt text 0 with
  | some x =>
    if p x then
      let _ ← bump text
      return .again (taken ++ [x])
    else return .leave taken
  | none => return .leave taken

/-- Takes the characters at the front that are of a class. -/
def takeWhile (p : Char → Bool) : Scanner (List Char) := .loop (takeRound text p) []

/-- Takes a character of a comment, or its end. -/
def commentRound (start : Location) (_ : Unit) : Scanner (Machine.Round Unit Unit) := do
  let x ← peekAt text 0
  let y ← peekAt text 1
  if x = some '*' ∧ y = some '/' then
    let _ ← bump text
    let _ ← bump text
    return .leave ()
  else if x.isSome then
    let _ ← bump text
    return .again ()
  else refuse start .openComment

/-- Takes the rest of a comment up to `*/`. -/
def comment (start : Location) : Scanner Unit := .loop (commentRound text start) ()

/-- Takes a piece of trivia. -/
def triviaRound (_ : Unit) : Scanner (Machine.Round Unit Unit) := do
  let x ← peekAt text 0
  let y ← peekAt text 1
  if x.any Text.isBlank then
    let _ ← bump text
    return .again ()
  else if x = some '!' ∧ y = some '!' then
    let _ ← takeWhile text (· ≠ '\n')
    return .again ()
  else if x = some '/' ∧ y = some '*' then
    let start ← .place
    let _ ← bump text
    let _ ← bump text
    comment text start
    return .again ()
  else return .leave ()

/-- Takes the trivia at the front. -/
def skipTrivia : Scanner Unit := .loop (triviaRound text) ()

/-- Takes the character after a backslash in quotes. -/
def escapedRound (start : Location) (value : List Char) :
    Scanner (Machine.Round (List Char) (List Char)) := do
  match ← bump text with
  | none => refuse start .openQuote
  | some e =>
    match escaped? e with
    | some x => return .again (value ++ [x])
    | none => refuse start (.badEscape e)

/-- Takes a character of a text in quotes, or the closing quote. -/
def quotedRound (start : Location) (value : List Char) :
    Scanner (Machine.Round (List Char) (List Char)) := do
  match ← bump text with
  | none => refuse start .openQuote
  | some x =>
    if x = '"' then return .leave value
    else if x = '\n' then refuse start .openQuote
    else if x = '\\' then escapedRound text start value
    else return .again (value ++ [x])

/-- A text in quotes. -/
def quoted (start : Location) : Scanner Token := do
  let _ ← bump text
  let value ← .loop (quotedRound text start) []
  return .quoted (String.ofList value)

/-- A code, after its sign. -/
def code (start : Location) (negative : Bool) : Scanner Token := do
  let digits ← takeWhile text Char.isDigit
  match Code.ofDigits? negative digits with
  | some c => return .code c
  | none => refuse start (.codeOutOfRange negative digits)

/-- What begins with `$`. -/
def marker (start : Location) : Scanner Token := do
  let _ ← bump text
  if (← peekAt text 0).any isNameStart then
    let name ← takeWhile text isNamePart
    return .marker (String.ofList name)
  else refuse start .bareDollar

/-- What begins with `<`. -/
def less (start : Location) : Scanner Token := do
  let _ ← bump text
  if (← peekAt text 0) = some '-' then
    let _ ← bump text
    if (← peekAt text 0) = some '>' then
      let _ ← bump text
      return .symbol .bothArrow
    else return .symbol .leftArrow
  else refuse start .bareLess

/-- What begins with `-`. -/
def dash (start : Location) : Scanner Token := do
  let y ← peekAt text 1
  if y = some '>' then
    let _ ← bump text
    let _ ← bump text
    return .symbol .arrow
  else if y = some '-' then
    let _ ← bump text
    let _ ← bump text
    return .symbol .doubleDash
  else if y.any Char.isDigit then
    let _ ← bump text
    code text start true
  else refuse start (.strayChar '-')

/-- The token that begins with a character. -/
def token (start : Location) (x : Char) : Scanner Token :=
  match symbolOf? x with
  | some s => do
    let _ ← bump text
    return .symbol s
  | none =>
    if x = '"' then quoted text start
    else if x = '$' then marker text start
    else if x = '<' then less text start
    else if x = '-' then dash text start
    else if x.isDigit then code text start false
    else if isNameStart x then do
      let name ← takeWhile text isNamePart
      return .name (String.ofList name)
    else refuse start (.strayChar x)

/-- Takes trivia and a token after it, or marks the end. -/
def tokenRound (marks : List Mark) : Scanner (Machine.Round (List Mark) (List Mark)) := do
  skipTrivia text
  let start ← .place
  match ← peekAt text 0 with
  | none => return .leave (marks ++ [⟨none, start⟩])
  | some x =>
    let t ← token text start x
    return .again (marks ++ [⟨some t, start⟩])

/-- The marks of a text. -/
def tokenize : Scanner (List Mark) := .loop (tokenRound text) []

end Definitions

/-! ## Passing over characters -/

/-- Whether one cursor lies some characters behind another, and no more than `rate` rounds have been
spent on each of them. -/
structure Passed (rate : Nat) (c : Cursor Location) (xs : List Char) (c' : Cursor Location) :
    Prop where
  pos : c'.pos = c.pos + xs.length
  place : c'.place = c.place.past xs
  fuel : c.fuel ≤ c'.fuel + rate * xs.length

variable {text cs xs ys : List Char} {c c' c'' : Cursor Location} {x y : Char} {rate : Nat}
  {start : Location}

namespace Passed

/-- A cursor that stays has passed nothing. -/
theorem refl (rate : Nat) (c : Cursor Location) : Passed rate c [] c := ⟨rfl, rfl, Nat.le_refl _⟩

/-- Pieces that are passed one after another are passed together. -/
theorem trans (first : Passed rate c xs c') (second : Passed rate c' ys c'') :
    Passed rate c (xs ++ ys) c'' where
  pos := by rw [second.pos, first.pos, List.length_append, Nat.add_assoc]
  place := by rw [second.place, first.place, Location.past, Location.past, Location.past,
    List.foldl_append]
  fuel := by
    have := first.fuel
    have := second.fuel
    rw [List.length_append, Nat.mul_add]
    omega

/-- What is passed in some rounds a character is passed in more. -/
theorem mono {rate' : Nat} (passed : Passed rate c xs c') (le : rate ≤ rate') :
    Passed rate' c xs c' where
  pos := passed.pos
  place := passed.place
  fuel := by
    have := passed.fuel
    have := Nat.mul_le_mul_right xs.length le
    omega

/-- What fuel there has to be for the characters that follow is left. -/
theorem enough (passed : Passed rate c xs c') (enough : rate * (xs ++ cs).length ≤ c.fuel) :
    rate * cs.length ≤ c'.fuel := by
  have := passed.fuel
  rw [List.length_append, Nat.mul_add] at enough
  omega

/-- What follows the characters that were passed over is what the cursor stands before. -/
theorem drop (passed : Passed rate c xs c') (ahead : text.drop c.pos = xs ++ cs) :
    text.drop c'.pos = cs := by
  rw [passed.pos, ← List.drop_drop, ahead, List.drop_left]

end Passed

section Loops

variable {ε σ α : Type} {round : σ → Machine Location ε (Machine.Round σ α)} {s s' : σ}

/-- A round that passes over some characters and leaves fuel for one more round on them is followed
by another one. -/
theorem run_loop_of_spare (ran : (round s).run c = .done (.again s', c'))
    (passed : Passed rate c xs c') (nonempty : xs ≠ []) (enough : rate * xs.length ≤ c.fuel)
    (spare : c.fuel < c'.fuel + rate * xs.length) :
    ∃ c'', (Machine.loop round s).run c = (Machine.loop round s').run c'' ∧
      Passed rate c xs c'' := by
  have length := List.length_pos_iff.mpr nonempty
  have moved := passed.pos
  obtain ⟨fuel, fuelled⟩ : ∃ fuel, c'.fuel = fuel + 1 := Nat.exists_eq_add_one.mpr (by omega)
  refine ⟨_, Machine.run_loop_of_again ran (by omega) fuelled, passed.pos, passed.place, ?_⟩
  simp only
  omega

/-- A round that passes over some characters is followed by another one, which is one more round
spent on them. -/
theorem run_loop_of_again (ran : (round s).run c = .done (.again s', c'))
    (passed : Passed rate c xs c') (nonempty : xs ≠ [])
    (enough : (rate + 1) * xs.length ≤ c.fuel) :
    ∃ c'', (Machine.loop round s).run c = (Machine.loop round s').run c'' ∧
      Passed (rate + 1) c xs c'' := by
  refine run_loop_of_spare ran (passed.mono (Nat.le_succ rate)) nonempty enough ?_
  have length := List.length_pos_iff.mpr nonempty
  have spent := passed.fuel
  rw [Nat.add_mul, Nat.one_mul]
  omega

end Loops

/-- Peeking gives the next character and leaves the cursor. -/
theorem run_peek (ahead : text.drop c.pos = cs) :
    (peekAt text 0).run c = .done (cs.head?, c) := by
  rw [← ahead, List.head?_drop]
  rfl

/-- Peeking one further gives the character after the next, and leaves the cursor. -/
theorem run_peekNext (ahead : text.drop c.pos = cs) :
    (peekAt text 1).run c = .done (cs.tail.head?, c) := by
  rw [← ahead, List.tail_drop, List.head?_drop]
  rfl

/-- A bump takes the next character and passes it. -/
theorem run_bump (ahead : text.drop c.pos = x :: cs) :
    ∃ c', (bump text).run c = .done (some x, c') ∧ Passed 0 c [x] c' := by
  have next : text[c.pos]? = some x := by rw [← List.head?_drop, ahead, List.head?_cons]
  refine ⟨⟨c.pos + 1, c.fuel, c.place.next x⟩, ?_, ⟨rfl, rfl, Nat.le_refl _⟩⟩
  simp only [bump, next]

/-- At the end of the text a bump takes nothing. -/
theorem run_bump_nil (ahead : text.drop c.pos = []) : (bump text).run c = .done (none, c) := by
  have next : text[c.pos]? = none := by rw [← List.head?_drop, ahead, List.head?_nil]
  simp only [bump, next]

end Scanner

end Crossmap.Mapping
