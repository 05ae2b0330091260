import Crossmap.Delimited.Text

/-! # Reading delimited text that was written

A text that was written record by record is read back as these records (`decode_encode`), for every
delimiter that is neither a quote nor a line break. Only a record without fields comes back with
one, which is empty, and a text that begins like a mark of the byte order loses it.
-/

namespace Crossmap.Delimited

/-- Whether a byte can stand between fields. -/
def IsDelimiter (b : UInt8) : Prop := b ≠ quote ∧ isBreak b = false

/-- A record with at least one field, which is empty if none was there. -/
def withField {α : Type} (empty : α) : List α → List α
  | [] => [empty]
  | field :: rest => field :: rest

theorem withField_of_ne_nil {α : Type} (empty : α) {record : List α} (filled : record ≠ []) :
    withField empty record = record := by
  cases record with
  | nil => exact absurd rfl filled
  | cons field rest => rfl

/-- What is made of the fields is made of the empty one as well. -/
theorem map_withField {α β : Type} (f : α → β) (empty : α) (record : List α) :
    (withField empty record).map f = withField (f empty) (record.map f) := by
  cases record <;> rfl

/-- A record is read back with as many fields as it is written with. -/
theorem length_withField_map {α β : Type} (f : α → β) (empty : α) (empty' : β) (record : List α) :
    (withField empty' (record.map f)).length = (withField empty record).length := by
  cases record with
  | nil => rfl
  | cons field rest => exact congrArg (· + 1) (List.length_map f)

namespace Scan

/-- Whether a scan has read some records, some further fields, and some bytes of another field. -/
structure Holds (s : Scan) (records : List (List (List UInt8))) (fields : List (List UInt8))
    (field : List UInt8) : Prop where
  records : s.records.reverse.map RawRecord.fields = records
  fields : s.fields.reverse = fields
  current : s.current.reverse = field

variable {s : Scan} {records : List (List (List UInt8))} {fields : List (List UInt8)}
  {field : List UInt8} {delimiter : UInt8}

theorem Holds.here (holds : s.Holds records fields field) (here : Position) :
    { s with here := here }.Holds records fields field :=
  ⟨holds.records, holds.fields, holds.current⟩

theorem Holds.state (holds : s.Holds records fields field) (state : State) :
    { s with state := state }.Holds records fields field :=
  ⟨holds.records, holds.fields, holds.current⟩

/-- A byte that is pushed belongs to the field that has begun. -/
theorem Holds.push (holds : s.Holds records fields field) (state : State) (b : UInt8) :
    (s.push state b).Holds records fields (field ++ [b]) := by
  refine ⟨holds.records, holds.fields, ?_⟩
  rw [Scan.push, List.reverse_cons, holds.current]

/-- A field that ends is one more of its record. -/
theorem Holds.endField (holds : s.Holds records fields field) :
    s.endField.Holds records (fields ++ [field]) [] := by
  refine ⟨holds.records, ?_, rfl⟩
  rw [Scan.endField, List.reverse_cons, holds.fields, holds.current]

/-- A record that ends has its last field, and the next one has none. -/
theorem Holds.endRecord (holds : s.Holds records fields field) :
    s.endRecord.Holds (records ++ [fields ++ [field]]) [] [] := by
  refine ⟨?_, rfl, rfl⟩
  rw [Scan.endRecord, List.reverse_cons, List.map_append, holds.records, List.map_singleton,
    Scan.record, List.reverse_cons, holds.fields, holds.current]

/-! ## Single bytes -/

/-- Outside quotes a delimiter ends the field. -/
theorem step_delimiter (separates : IsDelimiter delimiter) (unquoted : s.state ≠ .quoted) :
    s.step delimiter delimiter = { s with here := s.here.next delimiter }.endField := by
  cases state : s.state <;>
    simp_all [step, take, first, plain, IsDelimiter]

/-- Outside quotes a line feed ends the record that has begun. -/
theorem step_lineFeed (separates : IsDelimiter delimiter) (unquoted : s.state ≠ .quoted)
    (begun : s.state ≠ .recordStart) :
    s.step delimiter lineFeed = { s with here := s.here.next lineFeed }.endRecord := by
  have other : lineFeed ≠ delimiter := by
    rintro rfl
    exact absurd separates.2 (by decide)
  have ends : isBreak lineFeed = true := by decide
  have noQuote : lineFeed ≠ quote := by decide
  cases state : s.state <;> simp_all [step, take, first, plain]

/-! ## Fields -/

/-- Bytes that need no quotes go into the field. -/
theorem Holds.foldl_of_not_needsQuotes (holds : s.Holds records fields field)
    (unquoted : s.state ≠ .quoted) (unclosed : s.state ≠ .afterQuote) {bs : List UInt8}
    (plain : needsQuotes delimiter bs = false) :
    (bs.foldl (step delimiter) s).Holds records fields (field ++ bs) ∧
      (bs = [] ∧ bs.foldl (step delimiter) s = s ∨
        (bs.foldl (step delimiter) s).state = .field) := by
  induction bs generalizing s field with
  | nil => exact ⟨by rwa [List.append_nil], .inl ⟨rfl, rfl⟩⟩
  | cons b bs ih =>
      rw [needsQuotes, List.any_cons, Bool.or_eq_false_iff] at plain
      obtain ⟨ordinary, further⟩ := plain
      have pushed : s.step delimiter b = { s with here := s.here.next b }.push .field b := by
        cases state : s.state <;> simp_all [step, take, first, Scan.plain]
      rw [List.foldl_cons, pushed]
      obtain ⟨read, state⟩ := ih ((holds.here _).push .field b) nofun nofun further
      rw [List.append_assoc] at read
      refine ⟨read, .inr ?_⟩
      rcases state with ⟨rfl, -⟩ | state
      · rfl
      · exact state

/-- Between quotes every byte goes into the field, with its quotes doubled. -/
theorem Holds.foldl_quoted (delimiter : UInt8) (holds : s.Holds records fields field)
    (quoted : s.state = .quoted) (bs : List UInt8) :
    let read := (bs.flatMap fun b => if b = quote then [quote, quote] else [b]).foldl
      (step delimiter) s
    read.Holds records fields (field ++ bs) ∧ read.state = .quoted := by
  induction bs generalizing s field with
  | nil => exact ⟨by rwa [List.append_nil], quoted⟩
  | cons b bs ih =>
      rw [List.flatMap_cons, List.foldl_append, List.append_cons]
      by_cases isQuote : b = quote
      · rw [if_pos isQuote, isQuote]
        have twice : [quote, quote].foldl (step delimiter) s =
            { s with here := (s.here.next quote).next quote }.push .quoted quote := by
          simp [step, take, quoted, Scan.push]
        rw [twice]
        exact ih ((holds.here _).push _ _) rfl
      · rw [if_neg isQuote]
        have once : [b].foldl (step delimiter) s =
            { s with here := s.here.next b }.push .quoted b := by
          simp [step, take, quoted, isQuote]
        rw [once]
        exact ih ((holds.here _).push _ _) rfl

/-- A field is read as it was written. Afterwards the scan is outside quotes, and it stands at the
beginning of a record only if it stood there before and nothing was written. -/
theorem Holds.foldl_encodeField (delimiter : UInt8) (holds : s.Holds records fields [])
    (fresh : s.state = .recordStart ∨ s.state = .fieldStart) (f : List UInt8) :
    let read := (encodeField delimiter f).foldl (step delimiter) s
    read.Holds records fields f ∧ read.state ≠ .quoted ∧
      (read.state = .recordStart → s.state = .recordStart ∧ encodeField delimiter f = []) := by
  by_cases quoted : needsQuotes delimiter f = true
  · rw [encodeField, if_pos quoted, List.cons_append, List.foldl_cons, List.foldl_append]
    have opened : s.step delimiter quote =
        { s with here := s.here.next quote, state := .quoted } := by
      rcases fresh with state | state <;>
        simp [step, take, first, state, show isBreak quote = false from rfl]
    rw [opened]
    obtain ⟨read, inside⟩ :=
      ((holds.here (s.here.next quote)).state .quoted).foldl_quoted delimiter rfl f
    generalize (f.flatMap fun b => if b = quote then [quote, quote] else [b]).foldl
      (step delimiter) { s with here := s.here.next quote, state := .quoted } = s' at read inside
    have closed : [quote].foldl (step delimiter) s' =
        { s' with here := s'.here.next quote, state := .afterQuote } := by
      simp [step, take, inside]
    rw [closed]
    exact ⟨(read.here (s'.here.next quote)).state .afterQuote, nofun, nofun⟩
  · rw [encodeField, if_neg quoted]
    have unquoted : s.state ≠ .quoted := by rcases fresh with state | state <;> simp [state]
    have unclosed : s.state ≠ .afterQuote := by rcases fresh with state | state <;> simp [state]
    obtain ⟨read, state⟩ :=
      holds.foldl_of_not_needsQuotes unquoted unclosed (eq_false_of_ne_true quoted)
    refine ⟨read, ?_⟩
    rcases state with ⟨empty, same⟩ | state
    · rw [same]
      exact ⟨unquoted, fun begins => ⟨begins, empty⟩⟩
    · rw [state]
      exact ⟨nofun, nofun⟩

/-- All fields of a record are read as they were written. -/
theorem Holds.foldl_encodeFields (separates : IsDelimiter delimiter)
    (holds : s.Holds records fields []) (fresh : s.state = .recordStart ∨ s.state = .fieldStart)
    (f : List UInt8) (rest : List (List UInt8)) :
    let read := (encodeFields delimiter (f :: rest)).foldl (step delimiter) s
    ∃ front last, f :: rest = front ++ [last] ∧ read.Holds records (fields ++ front) last ∧
      read.state ≠ .quoted ∧
      (read.state = .recordStart →
        s.state = .recordStart ∧ encodeFields delimiter (f :: rest) = []) := by
  induction rest generalizing s fields f with
  | nil =>
      obtain ⟨read, ends⟩ := holds.foldl_encodeField delimiter fresh f
      exact ⟨[], f, rfl, by rwa [List.append_nil], ends⟩
  | cons f' rest ih =>
      obtain ⟨read, unquoted, -⟩ := holds.foldl_encodeField delimiter fresh f
      rw [encodeFields.eq_3 delimiter f (f' :: rest) nofun, List.foldl_append, List.foldl_cons,
        step_delimiter separates unquoted]
      obtain ⟨front, last, parts, further, outside, begins⟩ :=
        ih ((read.here _).endField) (.inr rfl) f'
      rw [List.append_assoc] at further
      exact ⟨f :: front, last, congrArg (f :: ·) parts, further, outside,
        fun state => nomatch (begins state).1⟩

/-! ## Records -/

/-- Nothing is written of a record only if it has no field, or one that is empty. -/
theorem eq_of_encodeFields_eq_nil {record : List (List UInt8)}
    (empty : encodeFields delimiter record = []) : record = [] ∨ record = [[]] := by
  have noField {f : List UInt8} (empty : encodeField delimiter f = []) : f = [] := by
    by_cases quoted : needsQuotes delimiter f = true
    · rw [encodeField, if_pos quoted] at empty
      cases empty
    · rwa [encodeField, if_neg quoted] at empty
  match record with
  | [] => exact .inl rfl
  | [f] => exact .inr (congrArg (fun f => [f]) (noField empty))
  | f :: f' :: rest =>
      rw [encodeFields.eq_3 delimiter f (f' :: rest) nofun] at empty
      exact nomatch (List.append_eq_nil_iff.mp empty).2

/-- A record is read as it was written, but with at least one field. -/
theorem Holds.foldl_encodeRecord (separates : IsDelimiter delimiter) (holds : s.Holds records [] [])
    (fresh : s.state = .recordStart) (record : List (List UInt8)) :
    let read := (encodeRecord delimiter record).foldl (step delimiter) s
    read.Holds (records ++ [withField [] record]) [] [] ∧ read.state = .recordStart := by
  rw [encodeRecord, List.foldl_append, List.foldl_cons, List.foldl_nil]
  by_cases empty : encodeFields delimiter record = []
  · have quotes : [quote, quote].foldl (step delimiter) s =
        { s with here := (s.here.next quote).next quote, state := .afterQuote } := by
      simp [step, take, first, fresh, show isBreak quote = false from rfl]
    have noField : withField [] record = [[]] := by
      rcases eq_of_encodeFields_eq_nil empty with rfl | rfl <;> rfl
    rw [empty, if_pos List.isEmpty_nil, quotes, noField]
    rw [step_lineFeed separates (show State.afterQuote ≠ .quoted by decide)
      (show State.afterQuote ≠ .recordStart by decide)]
    exact ⟨(((holds.here _).state .afterQuote).here _).endRecord, rfl⟩
  · rw [if_neg (by rwa [List.isEmpty_iff])]
    cases record with
    | nil => exact absurd rfl empty
    | cons f rest =>
        obtain ⟨front, last, parts, read, unquoted, begins⟩ :=
          holds.foldl_encodeFields separates (.inl fresh) f rest
        rw [step_lineFeed separates unquoted fun state => empty (begins state).2]
        have whole : withField [] (f :: rest) = [] ++ front ++ [last] := parts
        rw [whole]
        exact ⟨(read.here _).endRecord, rfl⟩

/-- Records that are written one after another are read one after another. -/
theorem Holds.foldl_encode (separates : IsDelimiter delimiter) (holds : s.Holds records [] [])
    (fresh : s.state = .recordStart) (written : List (List (List UInt8))) :
    let read := (encode delimiter written).foldl (step delimiter) s
    read.Holds (records ++ written.map (withField [])) [] [] ∧ read.state = .recordStart := by
  induction written generalizing s records with
  | nil => exact ⟨by rwa [List.map_nil, List.append_nil], fresh⟩
  | cons record rest ih =>
      obtain ⟨read, state⟩ := holds.foldl_encodeRecord separates fresh record
      rw [encode, List.flatMap_cons, List.foldl_append, List.map_cons, List.append_cons]
      exact ih read state

end Scan

/-- Whether bytes begin with the mark of the byte order. -/
def IsMarked (bs : List UInt8) : Prop := ∃ rest, bs = 0xEF :: 0xBB :: 0xBF :: rest

/-- Bytes without the mark of the byte order are scanned from their first one on. -/
theorem decode_of_not_isMarked (delimiter : UInt8) {bs : List UInt8} (unmarked : ¬ IsMarked bs) :
    decode delimiter bs = decodeFrom delimiter .start bs := by
  unfold decode
  split
  case h_1 rest => exact absurd ⟨rest, rfl⟩ unmarked
  case h_2 => rfl

/-- **Delimited text says what was written.** The records of a text that was written are read back,
each of them with at least one field. -/
theorem decode_encode {delimiter : UInt8} (separates : IsDelimiter delimiter)
    {records : List (List (List UInt8))} (unmarked : ¬ IsMarked (encode delimiter records)) :
    (decode delimiter (encode delimiter records)).map RawRecord.fields =
      records.map (withField []) := by
  have nothing : (Scan.fresh .start).Holds [] [] [] := ⟨rfl, rfl, rfl⟩
  obtain ⟨read, state⟩ := nothing.foldl_encode separates rfl records
  rw [decode_of_not_isMarked delimiter unmarked, decodeFrom, Scan.finish, state]
  exact read.records

end Crossmap.Delimited
