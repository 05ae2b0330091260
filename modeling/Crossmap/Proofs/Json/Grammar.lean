import Crossmap.Json.Reader
import Mathlib.Data.List.Basic

/-! # Texts that spell documents

`Spells` relates a text to the document that it spells, for documents without numbers. White space
may stand where the grammar of JSON allows it inside a value. Whatever is spelled is read
(`read?_of_spells`): a value is read up to the end of its text, whatever follows, with the length of
the text as the bound (`value_of_spells`).
-/

namespace Crossmap.JsonText

/-! ## White space -/

/-- Whether a text is nothing but white space. -/
def Blank (cs : List Char) : Prop := ∀ c ∈ cs, isSpace c = true

theorem blank_nil : Blank [] := by simp [Blank]

/-- Blanks in front of a text are skipped. -/
theorem skipSpace_append {lead : List Char} (blank : Blank lead) (cs : List Char) :
    skipSpace (lead ++ cs) = skipSpace cs :=
  List.dropWhile_append_of_pos blank

/-- What begins with anything but white space is what follows the white space before it. -/
theorem skipSpace_append_cons {lead : List Char} (blank : Blank lead) {c : Char}
    (solid : isSpace c = false) (cs : List Char) : skipSpace (lead ++ c :: cs) = c :: cs := by
  rw [skipSpace_append blank, skipSpace, List.dropWhile_cons_of_neg]
  rw [solid]
  exact Bool.false_ne_true

/-! ## The grammar -/

/-- Whether a text, its closing quote included, spells the pieces of a string. -/
def SpellsLiteral (cs : List Char) (l : Literal) : Prop :=
  ∀ rest, literal? (cs ++ rest) = some (l, rest)

/-- Texts each of which follows a comma and white space. -/
def following (lead : List Char) (texts : List (List Char)) : List Char :=
  texts.flatMap fun cs => ',' :: (lead ++ cs)

/-- A member, with white space between the colon and the value. -/
def memberText (gap name value : List Char) : List Char := '"' :: name ++ ':' :: gap ++ value

/-- Whether a text spells a document. The items and members of a document are indexed by things of
any kind. -/
inductive Spells : List Char → JsonText → Prop
  | null : Spells "null".toList .null
  | bool (b : Bool) : Spells (if b then "true".toList else "false".toList) (.bool b)
  | string {cs : List Char} {l : Literal} (literal : SpellsLiteral cs l) :
      Spells ('"' :: cs) (.string l)
  | emptyArray : Spells ['[', ']'] (.array [])
  | array {α : Type} {lead tail : List Char} {text : α → List Char} {meaning : α → JsonText}
      (blankLead : Blank lead) (blankTail : Blank tail) (first : α) (others : List α)
      (items : ∀ x ∈ first :: others, Spells (text x) (meaning x)) :
      Spells ('[' :: lead ++ (text first ++ following lead (others.map text)) ++ tail ++ [']'])
        (.array ((first :: others).map meaning))
  | emptyObject : Spells ['{', '}'] (.object [])
  | object {α : Type} {lead gap tail : List Char} {name text : α → List Char} {key : α → Literal}
      {meaning : α → JsonText} (blankLead : Blank lead) (blankGap : Blank gap)
      (blankTail : Blank tail) (first : α) (others : List α)
      (names : ∀ x ∈ first :: others, SpellsLiteral (name x) (key x))
      (values : ∀ x ∈ first :: others, Spells (text x) (meaning x)) :
      Spells
        ('{' :: lead ++ (memberText gap (name first) (text first)
          ++ following lead (others.map fun x => memberText gap (name x) (text x)))
        ++ tail ++ ['}'])
        (.object ((first :: others).map fun x => (key x, meaning x)))

/-- Whether a number of calls suffices to read a text as a document, wherever it stands. -/
def ReadsWithin (n : Nat) (cs : List Char) (t : JsonText) : Prop :=
  ∀ lead rest, Blank lead → value n (lead ++ (cs ++ rest)) = some (t, rest)

/-- The first character of a text that spells a document. -/
def opens (c : Char) : Bool := c ∈ ['n', 't', 'f', '"', '[', '{']

/-- No value opens with a blank. -/
theorem isSpace_eq_false_of_opens {c : Char} (opening : opens c = true) : isSpace c = false := by
  have among := of_decide_eq_true opening
  simp only [List.mem_cons, List.not_mem_nil, or_false] at among
  rcases among with rfl | rfl | rfl | rfl | rfl | rfl <;> decide

/-- Whatever spells a document begins with a character that opens a value. -/
theorem Spells.exists_opens {cs : List Char} {t : JsonText} (spells : Spells cs t) :
    ∃ c rest, cs = c :: rest ∧ opens c = true := by
  cases spells with
  | null => exact ⟨_, _, rfl, by decide⟩
  | bool b => cases b <;> exact ⟨_, _, rfl, by decide⟩
  | string _ => exact ⟨_, _, rfl, by decide⟩
  | emptyArray => exact ⟨_, _, rfl, by decide⟩
  | array _ _ _ _ _ => exact ⟨_, _, rfl, by decide⟩
  | emptyObject => exact ⟨_, _, rfl, by decide⟩
  | object _ _ _ _ _ _ _ => exact ⟨_, _, rfl, by decide⟩

/-! ## Reading what is spelled -/

/-- A word is dropped from the front of a text that begins with it. -/
theorem dropWord?_append (word rest : List Char) : dropWord? word (word ++ rest) = some rest := by
  have front : word.isPrefixOf (word ++ rest) = true :=
    List.isPrefixOf_iff_prefix.mpr (List.prefix_append word rest)
  rw [dropWord?, if_pos front, List.drop_left]

/-- Nothing is skipped before a character that is no blank. -/
theorem skipSpace_cons {c : Char} (solid : isSpace c = false) (cs : List Char) :
    skipSpace (c :: cs) = c :: cs :=
  skipSpace_append_cons blank_nil solid cs

/-- What follows the first item of a list has a comma before each further one. -/
theorem following_cons (lead cs : List Char) (texts : List (List Char)) :
    following lead (cs :: texts) = ',' :: (lead ++ cs) ++ following lead texts :=
  List.flatMap_cons

theorem comma_solid : isSpace ',' = false := by decide

theorem colon_solid : isSpace ':' = false := by decide

section Lists

variable {α : Type} {lead gap tail before : List Char} {name text : α → List Char}
  {key : α → Literal} {meaning : α → JsonText} {first : α} {others : List α} {n : Nat}

/-- Items with commas between them are read up to the closing bracket. -/
theorem items_of_reads (blankLead : Blank lead) (blankTail : Blank tail)
    (reads : ∀ x ∈ first :: others, ∀ n, (text x).length ≤ n → ReadsWithin n (text x) (meaning x))
    (enough : (text first ++ following lead (others.map text)).length < n) (blank : Blank before)
    (rest : List Char) :
    items n (before ++ (text first ++ following lead (others.map text) ++ (tail ++ ']' :: rest))) =
      some ((first :: others).map meaning, rest) := by
  -- Every call takes a comma or the bracket at least, so the length of the text bounds the calls.
  induction others generalizing first n before with
  | nil =>
      cases n with
      | zero => omega
      | succ n =>
          rw [List.length_append] at enough
          have read :=
            reads first List.mem_cons_self n (by omega) before (tail ++ ']' :: rest) blank
          have closed : skipSpace (tail ++ ']' :: rest) = ']' :: rest :=
            skipSpace_append_cons blankTail (by decide) rest
          simp only [following, List.map_nil, List.flatMap_nil, List.append_nil, items, read,
            closed]
          rfl
  | cons second others ih =>
      cases n with
      | zero => omega
      | succ n =>
          rw [List.map_cons, following_cons] at enough ⊢
          simp only [List.length_append, List.length_cons] at enough
          have further := @ih _ second n
            (fun x member => reads x (List.mem_cons_of_mem _ member))
            (by rw [List.length_append]; omega) blankLead
          have read := reads first List.mem_cons_self n (by omega) before
            (',' :: (lead ++ (text second ++ following lead (others.map text)
              ++ (tail ++ ']' :: rest)))) blank
          simp only [List.append_assoc, List.cons_append] at read further ⊢
          rw [items, read]
          simp only [skipSpace_cons comma_solid, further]
          rfl

/-- A member is read up to what follows its value. -/
theorem members_of_reads_next {x : α} (blankGap : Blank gap)
    (named : SpellsLiteral (name x) (key x)) (reads : ReadsWithin n (text x) (meaning x))
    (blank : Blank before) (cs : List Char) :
    members (n + 1) (before ++ (memberText gap (name x) (text x) ++ ',' :: cs)) =
      (members n cs).map fun r => ((key x, meaning x) :: r.1, r.2) := by
  have keyRead := named (':' :: (gap ++ (text x ++ ',' :: cs)))
  have valueRead := reads gap (',' :: cs) blankGap
  have opened : skipSpace (before ++ '"' :: (name x ++ ':' :: (gap ++ (text x ++ ',' :: cs)))) =
      '"' :: (name x ++ ':' :: (gap ++ (text x ++ ',' :: cs))) :=
    skipSpace_append_cons blank (by decide) _
  simp only [memberText, List.append_assoc, List.cons_append, members, opened, keyRead,
    skipSpace_cons colon_solid, valueRead, skipSpace_cons comma_solid]

/-- The last member of an object is read up to the closing brace. -/
theorem members_of_reads_last {x : α} (blankGap : Blank gap) (blankTail : Blank tail)
    (named : SpellsLiteral (name x) (key x)) (reads : ReadsWithin n (text x) (meaning x))
    (blank : Blank before) (rest : List Char) :
    members (n + 1) (before ++ (memberText gap (name x) (text x) ++ (tail ++ '}' :: rest))) =
      some ([(key x, meaning x)], rest) := by
  have keyRead := named (':' :: (gap ++ (text x ++ (tail ++ '}' :: rest))))
  have valueRead := reads gap (tail ++ '}' :: rest) blankGap
  have opened : skipSpace (before ++
      '"' :: (name x ++ ':' :: (gap ++ (text x ++ (tail ++ '}' :: rest))))) =
      '"' :: (name x ++ ':' :: (gap ++ (text x ++ (tail ++ '}' :: rest)))) :=
    skipSpace_append_cons blank (by decide) _
  have closed : skipSpace (tail ++ '}' :: rest) = '}' :: rest :=
    skipSpace_append_cons blankTail (by decide) rest
  simp only [memberText, List.append_assoc, List.cons_append, members, opened, keyRead,
    skipSpace_cons colon_solid, valueRead, closed]

/-- Members with commas between them are read up to the closing brace. -/
theorem members_of_reads (blankLead : Blank lead) (blankGap : Blank gap) (blankTail : Blank tail)
    (names : ∀ x ∈ first :: others, SpellsLiteral (name x) (key x))
    (reads : ∀ x ∈ first :: others, ∀ n, (text x).length ≤ n → ReadsWithin n (text x) (meaning x))
    (enough : (memberText gap (name first) (text first)
      ++ following lead (others.map fun x => memberText gap (name x) (text x))).length < n)
    (blank : Blank before) (rest : List Char) :
    members n (before ++ (memberText gap (name first) (text first)
        ++ following lead (others.map fun x => memberText gap (name x) (text x))
        ++ (tail ++ '}' :: rest))) =
      some ((first :: others).map fun x => (key x, meaning x), rest) := by
  have longer (x : α) : (text x).length < (memberText gap (name x) (text x)).length := by
    simp only [memberText, List.length_append, List.length_cons]
    omega
  have value_shorter := longer first
  -- Every member has more characters than its value, so one call less is enough for the others.
  induction others generalizing first n before with
  | nil =>
      cases n with
      | zero => omega
      | succ n =>
          rw [List.length_append] at enough
          have read := reads first List.mem_cons_self n (by omega)
          simp only [following, List.map_nil, List.flatMap_nil, List.append_nil]
          exact members_of_reads_last blankGap blankTail (names first List.mem_cons_self) read blank
            rest
  | cons second others ih =>
      cases n with
      | zero => omega
      | succ n =>
          rw [List.map_cons, following_cons] at enough ⊢
          simp only [List.length_append, List.length_cons] at enough
          have read := reads first List.mem_cons_self n (by omega)
          have further := @ih _ second n
            (fun x member => names x (List.mem_cons_of_mem _ member))
            (fun x member => reads x (List.mem_cons_of_mem _ member))
            (by rw [List.length_append]; omega) blankLead (longer second)
          have next := members_of_reads_next blankGap (names first List.mem_cons_self) read blank
            (lead ++ (memberText gap (name second) (text second)
              ++ following lead (others.map fun x => memberText gap (name x) (text x))
              ++ (tail ++ '}' :: rest)))
          rw [further] at next
          simp only [List.append_assoc, List.cons_append] at next ⊢
          rw [next]
          rfl

end Lists

/-- A list that does not close at once is read item by item. -/
theorem value_array {lead cs rest : List Char} (blank : Blank lead) {c : Char}
    (begun : skipSpace cs = c :: rest) (opening : opens c = true) (n : Nat) :
    value (n + 1) (lead ++ '[' :: cs) = (items n (c :: rest)).map fun r => (.array r.1, r.2) := by
  have bracket : skipSpace (lead ++ '[' :: cs) = '[' :: cs :=
    skipSpace_append_cons blank (by decide) cs
  have apart : c ≠ ']' := by
    rintro rfl
    cases opening
  simp only [value, bracket, begun]
  split
  · next closed => exact absurd (List.cons.inj closed).1 apart
  · rfl

/-- What opens with a name is read member by member. -/
theorem value_object {lead cs rest : List Char} (blank : Blank lead)
    (begun : skipSpace cs = '"' :: rest) (n : Nat) :
    value (n + 1) (lead ++ '{' :: cs) =
      (members n ('"' :: rest)).map fun r => (.object r.1, r.2) := by
  have brace : skipSpace (lead ++ '{' :: cs) = '{' :: cs :=
    skipSpace_append_cons blank (by decide) cs
  simp only [value, brace, begun]
  split
  · next closed => exact absurd (List.cons.inj closed).1 (by decide)
  · rfl

/-- **What is spelled is read.** A text that spells a document is read up to its end, whatever
follows it. -/
theorem readsWithin_of_spells {cs : List Char} {t : JsonText} (spells : Spells cs t) {n : Nat}
    (enough : cs.length ≤ n) : ReadsWithin n cs t := by
  -- No value is without characters, so the bound is never zero and pays for one call.
  induction spells generalizing n with
  | null =>
      cases n with
      | zero => cases enough
      | succ n =>
          intro lead rest blank
          have opened :
              skipSpace (lead ++ ("null".toList ++ rest)) = 'n' :: ("ull".toList ++ rest) :=
            skipSpace_append_cons blank (by decide) _
          simp only [value, opened, dropWord?_append]
          rfl
  | bool b =>
      cases n with
      | zero => cases b <;> cases enough
      | succ n =>
          intro lead rest blank
          cases b with
          | false =>
              have opened : skipSpace (lead ++ ("false".toList ++ rest)) =
                  'f' :: ("alse".toList ++ rest) := skipSpace_append_cons blank (by decide) _
              simp only [Bool.false_eq_true, if_false, value, opened, dropWord?_append]
              rfl
          | true =>
              have opened : skipSpace (lead ++ ("true".toList ++ rest)) =
                  't' :: ("rue".toList ++ rest) := skipSpace_append_cons blank (by decide) _
              simp only [if_true, value, opened, dropWord?_append]
              rfl
  | @string cs l literal =>
      cases n with
      | zero => cases enough
      | succ n =>
          intro lead rest blank
          have opened : skipSpace (lead ++ '"' :: (cs ++ rest)) = '"' :: (cs ++ rest) :=
            skipSpace_append_cons blank (by decide) _
          simp only [List.cons_append, value, opened, literal rest]
          rfl
  | emptyArray =>
      cases n with
      | zero => cases enough
      | succ n =>
          intro lead rest blank
          have opened : skipSpace (lead ++ '[' :: ']' :: rest) = '[' :: ']' :: rest :=
            skipSpace_append_cons blank (by decide) _
          have closed : skipSpace (']' :: rest) = ']' :: rest := skipSpace_cons (by decide) rest
          simp only [List.cons_append, List.nil_append, value, opened, closed]
  | @array α lead tail text meaning blankLead blankTail first others spells ih =>
      cases n with
      | zero => cases enough
      | succ n =>
          intro before rest blank
          have read := items_of_reads blankLead blankTail ih (n := n)
            (by simp only [List.length_append, List.length_cons] at enough ⊢; omega) blank_nil rest
          obtain ⟨c, cs, begins, opening⟩ := (spells first List.mem_cons_self).exists_opens
          have begun (more : List Char) : skipSpace (lead ++ c :: more) = c :: more :=
            skipSpace_append_cons blankLead (isSpace_eq_false_of_opens opening) more
          simp only [begins, List.nil_append, List.append_assoc, List.cons_append] at read ⊢
          rw [value_array blank (begun _) opening n, read]
          rfl
  | emptyObject =>
      cases n with
      | zero => cases enough
      | succ n =>
          intro lead rest blank
          have opened : skipSpace (lead ++ '{' :: '}' :: rest) = '{' :: '}' :: rest :=
            skipSpace_append_cons blank (by decide) _
          have closed : skipSpace ('}' :: rest) = '}' :: rest := skipSpace_cons (by decide) rest
          simp only [List.cons_append, List.nil_append, value, opened, closed]
  | @object α lead gap tail name text key meaning blankLead blankGap blankTail first others names
      values ih =>
      cases n with
      | zero => cases enough
      | succ n =>
          intro before rest blank
          have read := members_of_reads blankLead blankGap blankTail names ih (n := n)
            (by simp only [List.length_append, List.length_cons] at enough ⊢; omega) blank_nil rest
          have begun (cs : List Char) : skipSpace (lead ++ '"' :: cs) = '"' :: cs :=
            skipSpace_append_cons blankLead (by decide) cs
          simp only [memberText, List.nil_append, List.append_assoc, List.cons_append] at read ⊢
          rw [value_object blank (begun _) n, read]
          rfl

/-- A text that spells a document is read as that document. -/
theorem read?_of_spells {s : String} {t : JsonText} (spells : Spells s.toList t) :
    read? s = some t := by
  have read := readsWithin_of_spells spells (n := 2 * s.toList.length + 2) (by omega) [] []
    blank_nil
  rw [List.nil_append, List.append_nil] at read
  simp only [read?, read]
  rfl

end Crossmap.JsonText
