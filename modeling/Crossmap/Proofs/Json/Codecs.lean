import Crossmap.Json.View
import Crossmap.Proofs.Dict.Lookup
import Crossmap.Proofs.Json.Printing
import Crossmap.Proofs.Number.CodeText

/-! # Decoding what was encoded

A codec reads back if its decoder finds every value again in the document that the value is written
as (`ReadsBack`). Texts, truth values, lists and maps read back (`readsBack_text`,
`ReadsBack.listOf`, `ReadsBack.dictOf`). A record is written as members, some of which can be left
out; a decoder finds its fields by name (`exists_fields`), and each of them holds what was written
(`Recovers`).
-/

namespace Crossmap

open Document

/-! ## Strings -/

namespace Literal

/-- A control character that stands as a code unit is read as that character. -/
theorem chars?_unit_cons {n : Nat} (small : n < 0x20) (l : Literal) :
    chars? (.unit n :: l) = (chars? l).map (Char.ofNat n :: ·) := by
  have notHigh : isHighHalf n = false := by
    simp only [isHighHalf, Bool.and_eq_false_iff, decide_eq_false_iff_not]
    omega
  have notLow : isLowHalf n = false := by
    simp only [isLowHalf, Bool.and_eq_false_iff, decide_eq_false_iff_not]
    omega
  cases l with
  | nil => simp [chars?, notHigh, notLow]
  | cons p rest =>
      cases p with
      | char c => simp [chars?, notHigh, notLow]
      | unit n' => simp [chars?, notHigh, notLow]

/-- Characters written piece by piece are read as they were. -/
theorem chars?_map_piece (cs : List Char) : chars? (cs.map Json.piece) = some cs := by
  induction cs with
  | nil => rfl
  | cons c cs ih =>
      rw [List.map_cons, Json.piece]
      split
      · next control => rw [chars?_unit_cons control.1, ih, Option.map_some, Char.ofNat_toNat]
      · rw [chars?, ih, Option.map_some]

/-- A text is read as it was written. -/
@[simp] theorem text?_pieces (s : String) : text? (Json.pieces s) = some s := by
  rw [text?, Json.pieces, chars?_map_piece, Option.map_some, String.ofList_toList]

/-- A text without control characters is read without decoding any. -/
theorem plainChars?_pieces {s : String} (printable : ∀ c ∈ s.toList, ¬ c.toNat < 0x20) :
    plainChars? (Json.pieces s) = some s.toList := by
  rw [plainChars?, Json.pieces]
  generalize s.toList = cs at printable
  induction cs with
  | nil => rfl
  | cons c cs ih =>
      have plain : Json.piece c = .char c :=
        if_neg fun control => printable c List.mem_cons_self control.1
      have others := ih fun c member => printable c (List.mem_cons_of_mem _ member)
      rw [List.map_cons, List.mapM_cons, others, plain]
      rfl

/-- The name of a member that is a code. -/
theorem plainChars?_text (c : Code) : plainChars? (Json.pieces c.text) = some c.text.toList := by
  apply plainChars?_pieces
  intro d member control
  have digit (d : Char) (digit : d.isDigit = true) : ¬ d.toNat < 0x20 := by
    simp only [Char.isDigit, ge_iff_le, Bool.and_eq_true, decide_eq_true_eq,
      UInt32.le_iff_toNat_le] at digit
    change 48 ≤ d.toNat ∧ d.toNat ≤ 57 at digit
    omega
  rw [Code.toList_text] at member
  split at member
  · rcases List.mem_cons.mp member with rfl | isDigit
    · exact absurd control (by decide)
    · exact digit d (Code.isDigit_of_mem_toDigits isDigit) control
  · exact digit d (Code.isDigit_of_mem_toDigits member) control

end Literal

/-! ## Views -/

namespace JsonText

variable {α : Type} {document : α → JsonText}

/-- The members of an object are found under their names, in their order. -/
theorem members?_object {name : α → String} (xs : List α) :
    members? (.object (xs.map fun x => (Json.pieces (name x), document x)) : JsonText) =
      some (xs.map fun x => (name x, document x)) := by
  change named? _ = _
  have named (x : α) : (Literal.text? (Json.pieces (name x))).map (·, document x) =
      some (name x, document x) := by
    rw [Literal.text?_pieces, Option.map_some]
  rw [named?, List.mapM_map, Function.comp_def, funext named]
  exact List.mapM_pure

/-- Members under the texts of codes are found under these codes, in their order. -/
theorem coded?_object {code : α → Code} (xs : List α) :
    coded? (.object (xs.map fun x => (Json.pieces (code x).text, document x)) : JsonText) =
      some (xs.map fun x => (code x, document x)) := by
  change numbered? _ = _
  have numbered (x : α) :
      ((Literal.plainChars? (Json.pieces (code x).text)).bind Code.ofName?).map (·, document x) =
        some (code x, document x) := by
    rw [Literal.plainChars?_text, Option.bind_some, Code.ofName?_text, Option.map_some]
  rw [numbered?, List.mapM_map, Function.comp_def, funext numbered]
  exact List.mapM_pure

end JsonText

/-! ## Codecs -/

/-- Whether a decoder finds every value again in what its encoding is written as. -/
def ReadsBack {α : Type} (encode : α → Json) (decode : JsonText → Option α) : Prop :=
  ∀ x, ∃ t, (encode x).WrittenAs t ∧ decode t = some x

section Codecs

variable {α : Type} {encode : α → Json} {decode : JsonText → Option α}

theorem readsBack_text : ReadsBack Json.string (text? : JsonText → Option String) :=
  fun s => ⟨_, .string s, Literal.text?_pieces s⟩

theorem readsBack_truth : ReadsBack Json.bool (truth? : JsonText → Option Bool) :=
  fun b => ⟨_, .bool b, rfl⟩

/-- A choice that is found by its text is written as that text. -/
theorem readsBack_choice {text : α → String} {ofText? : String → Option α}
    (found : ∀ a, ofText? (text a) = some a) :
    ReadsBack (fun a => .string (text a)) fun t => (choice? t).bind ofText? := by
  intro a
  refine ⟨_, .string (text a), ?_⟩
  have read : text? (.string (Json.pieces (text a)) : JsonText) = some (text a) :=
    Literal.text?_pieces (text a)
  have chosen : choice? (.string (Json.pieces (text a)) : JsonText) = some (text a) := by
    rw [choice?, read, Option.some_or]
  exact (congrArg (·.bind ofText?) chosen).trans (found a)

/-- A list reads back if its items do. -/
theorem ReadsBack.listOf (back : ReadsBack encode decode) :
    ReadsBack (fun xs => .array (xs.map encode)) (listOf? decode) := by
  choose document written decoded using back
  intro xs
  refine ⟨_, .array xs fun x _ => written x, ?_⟩
  change (xs.map document).mapM decode = some xs
  rw [List.mapM_map, Function.comp_def, funext decoded]
  exact List.mapM_pure.trans (congrArg some (List.map_id' xs))

/-- A list of texts reads back. -/
theorem readsBack_texts : ReadsBack Json.ofTexts (texts? : JsonText → Option (List String)) :=
  readsBack_text.listOf

/-- A map whose keys are found again is found again, in its order. -/
theorem dictOf?_eq_some {κ : Type} [DecidableEq κ] {document : α → JsonText}
    {entries? : JsonText → Option (List (κ × JsonText))} {t : JsonText} (d : Dict κ α)
    (found : entries? t = some (d.entries.map fun e => (e.1, document e.2)))
    (decoded : ∀ x, decode (document x) = some x) : dictOf? entries? decode t = some d := by
  have entry (e : κ × α) : (decode (document e.2)).map (e.1, ·) = some e := by
    rw [decoded, Option.map_some]
  have entries : (d.entries.map fun e => (e.1, document e.2)).mapM
      (fun e => (decode e.2).map (e.1, ·)) = some d.entries := by
    rw [List.mapM_map, Function.comp_def, funext entry]
    exact List.mapM_pure.trans (congrArg some (List.map_id' _))
  rw [dictOf?, found]
  change (List.mapM _ _ >>= fun es => some (Dict.ofList es)) = _
  rw [entries]
  exact congrArg some (Dict.ofList_entries d)

/-- A map from texts reads back, in its order, if its values do. -/
theorem ReadsBack.dictOf (back : ReadsBack encode decode) :
    ReadsBack (fun d : Dict String α => .object (d.entries.map fun e => (e.1, encode e.2)))
      (dictOf? members? decode) := by
  choose document written decoded using back
  intro d
  exact ⟨_, .object d.entries fun e _ => written e.2,
    dictOf?_eq_some d (JsonText.members?_object d.entries) decoded⟩

/-- A map from codes reads back, in its order, if its values do. -/
theorem ReadsBack.dictOfCodes (back : ReadsBack encode decode) :
    ReadsBack (fun d : Dict Code α => .object (d.entries.map fun e => (e.1.text, encode e.2)))
      (dictOf? coded? decode) := by
  choose document written decoded using back
  intro d
  exact ⟨_, .object d.entries fun e _ => written e.2,
    dictOf?_eq_some d (JsonText.coded?_object d.entries) decoded⟩

end Codecs

/-! ## Records -/

/-- The members of a record that are not left out. -/
def presentMembers (names : List String) (members : List (Option Json)) : List (String × Json) :=
  (names.zip members).filterMap fun m => m.2.map (m.1, ·)

/-- What a decoder is given for a member that is written or left out. -/
inductive FieldWritten : Option Json → Field JsonText → Prop
  | given {j : Json} {t : JsonText} (written : j.WrittenAs t) : FieldWritten (some j) (.given t)
  | absent : FieldWritten none .absent

/-- Whether a field decodes to a value where a member is written, or left out. -/
def Recovers {α : Type} (member : Option Json) (decode : Field JsonText → Option α) (a : α) :
    Prop :=
  ∃ f, FieldWritten member f ∧ decode f = some a

section Fields

variable {α : Type} {encode : α → Json} {decode : JsonText → Option α}

/-- A member that has to be there recovers a value that reads back. -/
theorem ReadsBack.required (back : ReadsBack encode decode) (a : α) :
    Recovers (some (encode a)) (Field.required decode) a := by
  obtain ⟨t, written, decoded⟩ := back a
  exact ⟨.given t, .given written, decoded⟩

/-- A member that could be left out recovers the value that is written, whatever stands for it
otherwise. -/
theorem ReadsBack.orElse (back : ReadsBack encode decode) (value a : α) :
    Recovers (some (encode a)) (Field.orElse value decode) a := by
  obtain ⟨t, written, decoded⟩ := back a
  exact ⟨.given t, .given written, decoded⟩

/-- An optional text that is written as null where there is none. -/
theorem recovers_ofText? (o : Option String) :
    Recovers (some (.ofText? o)) (Field.optional text?) o := by
  cases o with
  | none => exact ⟨.given .null, .given .null, rfl⟩
  | some s =>
      refine ⟨.given (.string (Json.pieces s)), .given (.string s), ?_⟩
      exact congrArg (Option.map some) (Literal.text?_pieces s)

/-- An optional text that is left out where there is none. -/
theorem recovers_map_string (o : Option String) {decode : Field JsonText → Option (Option String)}
    (given : ∀ t, decode (.given t) = Field.nullable text? t)
    (absent : decode .absent = some none) :
    Recovers (o.map Json.string) decode o := by
  cases o with
  | none => exact ⟨.absent, .absent, absent⟩
  | some s =>
      refine ⟨.given (.string (Json.pieces s)), .given (.string s), ?_⟩
      rw [given]
      exact congrArg (Option.map some) (Literal.text?_pieces s)

/-- A text that may be null is recovered where it is written. -/
theorem recovers_optional (o : Option String) :
    Recovers (o.map Json.string) (Field.optional text?) o :=
  recovers_map_string o (fun _ => rfl) rfl

/-- A text that may be left out is recovered, be it written or not. -/
theorem recovers_omittable (o : Option String) :
    Recovers (o.map Json.string) (Field.omittable text?) o :=
  recovers_map_string o (fun _ => rfl) rfl

/-- A list of texts that is left out where it is empty. -/
theorem recovers_ofTexts (texts : List String) :
    Recovers (if texts.isEmpty then none else some (.ofTexts texts)) (Field.orElse [] texts?)
      texts := by
  cases texts with
  | nil => exact ⟨.absent, .absent, rfl⟩
  | cons s rest => exact readsBack_texts.orElse [] (s :: rest)

end Fields

/-- Nothing is found under a name that no member has. -/
theorem named_eq_nil {α : Type} {ms : List (String × α)} {name : String}
    (absent : ∀ m ∈ ms, m.1 ≠ name) : Document.named name ms = [] := by
  rw [Document.named, List.filter_eq_nil_iff.mpr, List.map_nil]
  intro m member same
  exact absent m member (of_decide_eq_true same)

/-- Members that are looked for among others are found in either part. -/
theorem named_append {α : Type} (ms ms' : List (String × α)) (name : String) :
    Document.named name (ms ++ ms') = Document.named name ms ++ Document.named name ms' := by
  rw [Document.named, List.filter_append, List.map_append]
  rfl

theorem named_cons_self {α : Type} (name : String) (node : α) (ms : List (String × α)) :
    Document.named name ((name, node) :: ms) = node :: Document.named name ms := by
  rw [Document.named, List.filter_cons_of_pos (by simp), List.map_cons]
  rfl

/-- The members of a record are written one by one, and each field is found by its name, whatever
members of other names stand before them. -/
theorem exists_written_members {names : List String} (nodup : names.Nodup)
    {members : List (Option Json)} {fields : List (Field JsonText)}
    (sizes : names.length = members.length) (written : List.Forall₂ FieldWritten members fields) :
    ∃ xs : List (String × Json × JsonText),
      presentMembers names members = xs.map (fun x => (x.1, x.2.1)) ∧
        (∀ x ∈ xs, x.1 ∈ names ∧ x.2.1.WrittenAs x.2.2) ∧
        ∀ ms : List (String × JsonText), (∀ m ∈ ms, m.1 ∉ names) →
          names.mapM (member? (ms ++ xs.map fun x => (x.1, x.2.2))) = some fields := by
  -- The members in front are any that have other names, for they grow from name to name.
  induction written generalizing names with
  | nil =>
      obtain rfl := List.length_eq_zero_iff.mp sizes
      exact ⟨[], rfl, by simp, fun _ _ => rfl⟩
  | @cons member field members fields first _ ih =>
      cases names with
      | nil => cases sizes
      | cons name names =>
          obtain ⟨new, nodup⟩ := List.nodup_cons.mp nodup
          obtain ⟨xs, present, each, found⟩ := ih nodup (Nat.succ.inj sizes)
          have later : Document.named name (xs.map fun x => (x.1, x.2.2)) = [] := by
            apply named_eq_nil
            intro m member same
            obtain ⟨x, isMember, rfl⟩ := List.mem_map.mp member
            exact new (same ▸ (each x isMember).1)
          have before {ms : List (String × JsonText)} (others : ∀ m ∈ ms, m.1 ∉ name :: names) :
              Document.named name ms = [] :=
            named_eq_nil fun m member same => others m member (same ▸ List.mem_cons_self)
          cases first with
          | absent =>
              refine ⟨xs, present, ?_, ?_⟩
              · intro x member
                exact ⟨List.mem_cons_of_mem _ (each x member).1, (each x member).2⟩
              · intro ms others
                have missing :
                    member? (ms ++ xs.map fun x => (x.1, x.2.2)) name = some .absent := by
                  rw [member?, named_append, before others, later]
                  rfl
                have rest := found ms fun m member among =>
                  others m member (List.mem_cons_of_mem _ among)
                rw [List.mapM_cons, missing, rest]
                rfl
          | @given j t written =>
              refine ⟨(name, j, t) :: xs, ?_, ?_, ?_⟩
              · exact congrArg ((name, j) :: ·) present
              · intro x member
                rcases List.mem_cons.mp member with rfl | member
                · exact ⟨List.mem_cons_self, written⟩
                · exact ⟨List.mem_cons_of_mem _ (each x member).1, (each x member).2⟩
              · intro ms others
                have given : member? (ms ++ (name, t) :: xs.map fun x => (x.1, x.2.2)) name =
                    some (.given t) := by
                  rw [member?, named_append, before others, named_cons_self, later]
                  rfl
                have rest := found (ms ++ [(name, t)]) (by
                  intro m member among
                  rcases List.mem_append.mp member with earlier | last
                  · exact others m earlier (List.mem_cons_of_mem _ among)
                  · rw [List.mem_singleton.mp last] at among
                    exact new among)
                rw [List.append_assoc] at rest
                rw [List.map_cons, List.mapM_cons, given]
                change (names.mapM (member? (ms ++ ([(name, t)] ++ xs.map _))) >>= _) = _
                rw [rest]
                rfl

/-- **The fields of a record are found where they were written.** -/
theorem exists_fields (names : List String) (nodup : names.Nodup) {members : List (Option Json)}
    {fields : List (Field JsonText)} (sizes : names.length = members.length)
    (written : List.Forall₂ FieldWritten members fields) :
    ∃ t, (Json.object (presentMembers names members)).WrittenAs t ∧
      fields? names t = some fields := by
  obtain ⟨xs, present, each, found⟩ := exists_written_members nodup sizes written
  refine ⟨.object (xs.map fun x => (Json.pieces x.1, x.2.2)), ?_, ?_⟩
  · rw [present]
    exact .object xs fun x member => (each x member).2
  · rw [fields?, JsonText.members?_object]
    exact found [] (by simp)

end Crossmap
