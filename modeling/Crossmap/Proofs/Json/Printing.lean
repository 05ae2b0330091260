import Crossmap.Json.Printer
import Crossmap.Proofs.Json.Grammar

/-! # Printed values are read back

A value without numbers is written as a document (`Json.WrittenAs`): its strings are written by
pieces, one for each character (`literal?_escape`). Both printers spell that document
(`spells_chars`, `spells_prettyChars`), so it is what their texts are read as (`read?_compact`,
`read?_pretty`).
-/

namespace Crossmap

open JsonText

/-! ## Strings -/

namespace Json

/-- The control characters that have an escape of one letter. -/
def letteredControls : List Char := ['\x08', '\t', '\n', '\x0c', '\r']

/-- The piece that a character is written as: its number if it is a control character for which
there is no letter. -/
def piece (c : Char) : Piece :=
  if c.toNat < 0x20 ∧ c ∉ letteredControls then .unit c.toNat else .char c

/-- The pieces that a string is written as. -/
def pieces (s : String) : Literal := s.toList.map piece

/-- The number of a control character is read from the four digits that it is written with. -/
theorem hexNumber?_control :
    ∀ n < 0x20, Text.hexNumber? ['0', '0', hexDigit (n / 16), hexDigit n] = some n := by
  decide

/-- A character that needs no escape is read as it stands. -/
theorem literal?_plain {c : Char} (notQuote : c ≠ '"') (notSlash : c ≠ '\\')
    (printable : ¬ c.toNat < 0x20) (rest : List Char) :
    literal? (c :: rest) = (literal? rest).map fun r => (.char c :: r.1, r.2) := by
  rw [literal?, if_neg printable]
  · exact notQuote
  · exact fun _ _ _ _ _ same _ => notSlash same
  · exact fun _ _ same _ => notSlash same

/-- A control character with a letter is read back from its escape. -/
theorem escapeChar_of_lettered {c : Char} (lettered : c ∈ letteredControls) (rest : List Char) :
    literal? (escapeChar c ++ rest) = (literal? rest).map fun r => (piece c :: r.1, r.2) := by
  simp only [letteredControls, List.mem_cons, List.not_mem_nil, or_false] at lettered
  rcases lettered with rfl | rfl | rfl | rfl | rfl <;> rfl

/-- A control character without a letter is written by its number, and any other character as it
stands. -/
theorem escapeChar_of_not_lettered {c : Char} (notQuote : c ≠ '"') (notSlash : c ≠ '\\')
    (unlettered : c ∉ letteredControls) :
    escapeChar c =
      if c.toNat < 0x20 then ['\\', 'u', '0', '0', hexDigit (c.toNat / 16), hexDigit c.toNat]
      else [c] := by
  simp only [letteredControls, List.mem_cons, List.not_mem_nil, or_false, not_or] at unlettered
  obtain ⟨backspace, tab, newline, formFeed, carriageReturn⟩ := unlettered
  rw [escapeChar, if_neg notQuote, if_neg notSlash, if_neg backspace, if_neg tab, if_neg newline,
    if_neg formFeed, if_neg carriageReturn]

/-- An escaped character is read as its piece. -/
theorem literal?_escapeChar (c : Char) (rest : List Char) :
    literal? (escapeChar c ++ rest) = (literal? rest).map fun r => (piece c :: r.1, r.2) := by
  by_cases quote : c = '"'
  · subst quote
    rfl
  by_cases slash : c = '\\'
  · subst slash
    rfl
  by_cases lettered : c ∈ letteredControls
  · exact escapeChar_of_lettered lettered rest
  rw [escapeChar_of_not_lettered quote slash lettered, piece]
  by_cases control : c.toNat < 0x20
  · rw [if_pos control, if_pos ⟨control, lettered⟩]
    simp only [List.cons_append, List.nil_append, literal?, hexNumber?_control _ control]
  · rw [if_neg control, if_neg fun both => control both.1]
    exact literal?_plain quote slash control rest

/-- A quoted string spells its pieces. -/
theorem spellsLiteral_pieces (s : String) :
    SpellsLiteral (s.toList.flatMap escapeChar ++ ['"']) (pieces s) := by
  intro rest
  rw [pieces]
  induction s.toList with
  | nil => rfl
  | cons c cs ih =>
      simp only [List.flatMap_cons, List.map_cons, List.append_assoc] at ih ⊢
      rw [literal?_escapeChar, ih]
      rfl

/-! ## Documents -/

/-- Whether a document is what a value is written as. No number is written so. The items and members
of a value are indexed by things of any kind. -/
inductive WrittenAs : Json → JsonText → Prop
  | null : WrittenAs .null .null
  | bool (b : Bool) : WrittenAs (.bool b) (.bool b)
  | string (s : String) : WrittenAs (.string s) (.string (pieces s))
  | array {α : Type} {value : α → Json} {document : α → JsonText} (xs : List α)
      (written : ∀ x ∈ xs, WrittenAs (value x) (document x)) :
      WrittenAs (.array (xs.map value)) (.array (xs.map document))
  | object {α : Type} {name : α → String} {value : α → Json} {document : α → JsonText}
      (xs : List α) (written : ∀ x ∈ xs, WrittenAs (value x) (document x)) :
      WrittenAs (.object (xs.map fun x => (name x, value x)))
        (.object (xs.map fun x => (pieces (name x), document x)))

/-! ## Without any space -/

theorem itemChars_cons (j : Json) (rest : List Json) :
    itemChars (j :: rest) = chars j ++ following [] (rest.map chars) := by
  induction rest generalizing j with
  | nil => simp [itemChars, following]
  | cons j' rest ih => simp [itemChars, ih, following_cons]

/-- Members are printed one after another, each behind its name. -/
theorem memberChars_cons (m : String × Json) (rest : List (String × Json)) :
    memberChars (m :: rest) =
      memberText [] (m.1.toList.flatMap escapeChar ++ ['"']) (chars m.2) ++
        following [] (rest.map fun m =>
          memberText [] (m.1.toList.flatMap escapeChar ++ ['"']) (chars m.2)) := by
  induction rest generalizing m with
  | nil => simp [memberChars, following, memberText, quote]
  | cons m' rest ih => simp [memberChars, ih, following_cons, memberText, quote]

/-- What is printed without spaces spells the document that the value is written as. -/
theorem spells_chars {j : Json} {t : JsonText} (written : j.WrittenAs t) : Spells (chars j) t := by
  induction written with
  | null => exact .null
  | bool b => exact .bool b
  | string s => exact .string (spellsLiteral_pieces s)
  | @array α value document xs written ih =>
      cases xs with
      | nil => exact .emptyArray
      | cons first others =>
          have spells := Spells.array blank_nil blank_nil first others ih
          rw [chars, List.map_cons, itemChars_cons, List.map_map]
          simpa [Function.comp_def] using spells
  | @object α name value document xs written ih =>
      cases xs with
      | nil => exact .emptyObject
      | cons first others =>
          have spells := Spells.object blank_nil blank_nil blank_nil first others
            (fun x _ => spellsLiteral_pieces (name x)) ih
          rw [chars, List.map_cons, memberChars_cons, List.map_map]
          simpa [Function.comp_def] using spells

/-! ## One item or member on a line -/

theorem blank_lineBreak (level : Nat) : Blank (lineBreak level) := by
  intro c member
  rcases List.mem_cons.mp member with rfl | space
  · decide
  · rw [List.eq_of_mem_replicate space]
    decide

theorem blank_space : Blank [' '] := by
  intro c member
  rw [List.mem_singleton.mp member]
  decide

theorem prettyItems_cons (level : Nat) (j : Json) (rest : List Json) :
    prettyItems level (j :: rest) =
      prettyChars level j ++ following (lineBreak level) (rest.map (prettyChars level)) := by
  induction rest generalizing j with
  | nil => simp [prettyItems, following]
  | cons j' rest ih => simp [prettyItems, ih, following_cons]

/-- Members are printed line by line, each behind its name. -/
theorem prettyMembers_cons (level : Nat) (m : String × Json) (rest : List (String × Json)) :
    prettyMembers level (m :: rest) =
      memberText [' '] (m.1.toList.flatMap escapeChar ++ ['"']) (prettyChars level m.2) ++
        following (lineBreak level) (rest.map fun m =>
          memberText [' '] (m.1.toList.flatMap escapeChar ++ ['"']) (prettyChars level m.2)) := by
  induction rest generalizing m with
  | nil => simp [prettyMembers, following, memberText, quote]
  | cons m' rest ih => simp [prettyMembers, ih, following_cons, memberText, quote]

/-- What is printed over several lines spells the document that the value is written as, at whatever
level. -/
theorem spells_prettyChars {j : Json} {t : JsonText} (written : j.WrittenAs t) (level : Nat) :
    Spells (prettyChars level j) t := by
  induction written generalizing level with
  | null => exact .null
  | bool b => exact .bool b
  | string s => exact .string (spellsLiteral_pieces s)
  | @array α value document xs written ih =>
      cases xs with
      | nil => exact .emptyArray
      | cons first others =>
          have spells := Spells.array (blank_lineBreak (level + 1)) (blank_lineBreak level) first
            others fun x member => ih x member (level + 1)
          rw [List.map_cons, prettyChars, prettyItems_cons, List.map_map]
          exact spells
  | @object α name value document xs written ih =>
      cases xs with
      | nil => exact .emptyObject
      | cons first others =>
          have spells := Spells.object (blank_lineBreak (level + 1)) blank_space
            (blank_lineBreak level) first others (fun x _ => spellsLiteral_pieces (name x))
            fun x member => ih x member (level + 1)
          rw [List.map_cons, prettyChars, prettyMembers_cons, List.map_map]
          exact spells

/-- **What a value is written as is read.** -/
theorem WrittenAs.read?_compact {j : Json} {t : JsonText} (written : j.WrittenAs t) :
    JsonText.read? j.compact = some t := by
  apply read?_of_spells
  rw [compact, String.toList_ofList]
  exact spells_chars written

/-- A value printed over several lines is read as the document that it is written as. -/
theorem WrittenAs.read?_pretty {j : Json} {t : JsonText} (written : j.WrittenAs t) :
    JsonText.read? j.pretty = some t := by
  apply read?_of_spells
  rw [pretty, String.toList_ofList]
  exact spells_prettyChars written 0

end Json

end Crossmap
