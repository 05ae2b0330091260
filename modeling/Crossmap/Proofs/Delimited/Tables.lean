import Crossmap.Delimited.Table
import Crossmap.Proofs.Conversion.Results
import Crossmap.Proofs.Delimited.Records
import Crossmap.Proofs.Dict.Lookup
import Crossmap.Proofs.Text.Utf8
import Mathlib.Data.List.Zip

/-! # Reading tables that were written

Rows that were written as a table are read back as texts: every row has the columns of the table,
and under each of them the text of its cell (`readTable_writeTable`). A table without columns comes
back with one that has no name, and a table whose first column begins with the mark of the byte
order loses the mark.
-/

namespace Crossmap.Delimited

open Text

/-! ## Rows of texts -/

/-- The text that a row has in a column of a table. -/
def fieldIn (row : Row) (column : String) : String := ((row.get? column).bind cellText).getD ""

/-- A row as it is read back from a table with certain columns. -/
def rowRead (columns : List String) (row : Row) : Row :=
  Dict.ofList ((withField "" columns).zip
    ((withField "" (columns.map (fieldIn row))).map fieldCell))

/-- In a table with columns, a row is read back with a cell for each of them. -/
theorem entries_rowRead {columns : List String} (filled : columns ≠ []) (distinct : columns.Nodup)
    (row : Row) :
    (rowRead columns row).entries = columns.map fun c => (c, fieldCell (fieldIn row c)) := by
  have texts : withField "" (columns.map (fieldIn row)) = columns.map (fieldIn row) :=
    withField_of_ne_nil "" (mt List.map_eq_nil_iff.mp filled)
  have cells : columns.zip ((columns.map (fieldIn row)).map fieldCell) =
      columns.map fun c => (c, fieldCell (fieldIn row c)) := by
    rw [List.map_map]
    exact List.map_prod_left_eq_zip.symm
  have names : (columns.map fun c => (c, fieldCell (fieldIn row c))).map Prod.fst = columns := by
    rw [List.map_map]
    exact List.map_id columns
  rw [rowRead, withField_of_ne_nil "" filled, texts, cells]
  apply Dict.entries_ofList
  rw [names]
  exact distinct

theorem recordTexts_eq_ok {r : RawRecord} {texts : List String}
    (fields : r.fields = texts.map Utf8.bytes) (index : Nat) : recordTexts index r = .ok texts := by
  rw [recordTexts, fields]
  apply mapM_zipIdx_eq_ok
  rw [List.forall₂_map_left_iff, List.forall₂_same]
  intro text _ n
  rw [fieldText, Utf8.decode_bytes]
  rfl

theorem rowsOf_eq_ok {δ : Type} {raw : List RawRecord} {header : List String} {rows : List δ}
    {texts : δ → List String} (even : ∀ row, (texts row).length = header.length)
    (fields : raw.map RawRecord.fields =
      header.map Utf8.bytes :: rows.map fun row => (texts row).map Utf8.bytes) :
    rowsOf raw =
      .ok (rows.map fun row => Dict.ofList (header.zip ((texts row).map fieldCell))) := by
  obtain ⟨first, rest, rfl, ofHeader, ofRows⟩ := List.map_eq_cons_iff.mp fields
  have read : List.Forall₂ (· = ·) (rest.map RawRecord.fields)
      (rows.map fun row => (texts row).map Utf8.bytes) := by
    rw [List.forall₂_eq_eq_eq]
    exact ofRows
  rw [List.forall₂_map_left_iff, List.forall₂_map_right_iff] at read
  rw [rowsOf, recordTexts_eq_ok ofHeader]
  apply mapM_zipIdx_eq_ok
  rw [List.forall₂_map_right_iff]
  refine read.imp fun r row fields index => ?_
  have long : ¬ r.fields.length ≠ header.length := by
    rw [fields, List.length_map, even, not_ne_iff]
  rw [rowOf, if_neg long, recordTexts_eq_ok fields]
  rfl

/-! ## The mark of the byte order -/

/-- Whether a text begins with the character that marks the byte order. -/
def BeginsWithMark (s : String) : Prop := s.toList.head? = some '\uFEFF'

instance : DecidablePred BeginsWithMark := fun s =>
  inferInstanceAs (Decidable (s.toList.head? = some '\uFEFF'))

/-- The bytes at the front of a field are a quote or those of its first character. -/
theorem encodeField_append_cases (delimiter : UInt8) (text : String) (bs : List UInt8) :
    (∃ rest, encodeField delimiter (Utf8.bytes text) ++ bs = quote :: rest) ∨
      encodeField delimiter (Utf8.bytes text) ++ bs = Utf8.bytes text ++ bs := by
  by_cases quoted : needsQuotes delimiter (Utf8.bytes text) = true
  · rw [encodeField, if_pos quoted]
    exact .inl ⟨_, rfl⟩
  · rw [encodeField, if_neg quoted]
    exact .inr rfl

theorem not_isMarked_quote (bs : List UInt8) : ¬ IsMarked (quote :: bs) := by
  rintro ⟨rest, front⟩
  exact absurd (List.cons.inj front).1 (by decide)

/-- A field is marked only if its text begins with the mark. -/
theorem not_isMarked_encodeField {delimiter : UInt8} {text : String} {c : Char}
    (first : text.toList.head? = some c) (unmarked : ¬ BeginsWithMark text) (bs : List UInt8) :
    ¬ IsMarked (encodeField delimiter (Utf8.bytes text) ++ bs) := by
  rcases encodeField_append_cases delimiter text bs with ⟨rest, front⟩ | front
  · rw [front]
    exact not_isMarked_quote rest
  · rw [front]
    rintro ⟨rest, marked⟩
    have mark : Utf8.firstChar? (0xEF :: 0xBB :: 0xBF :: rest) = some '\uFEFF' :=
      Utf8.firstChar?_append '\uFEFF' rest
    rw [← marked, Utf8.firstChar?_bytes_append first bs] at mark
    exact unmarked (first.trans mark)

/-- A field without text is followed by what follows its record or by a delimiter. -/
theorem encodeFields_cons_of_empty (delimiter : UInt8) {text : String}
    (empty : text.toList.head? = none) (rest : List (List UInt8)) :
    encodeFields delimiter (Utf8.bytes text :: rest) = [] ∨
      encodeFields delimiter (Utf8.bytes text :: rest) =
        delimiter :: encodeFields delimiter rest := by
  have noBytes : Utf8.bytes text = [] := by
    rw [Utf8.bytes, List.head?_eq_none_iff.mp empty]
    rfl
  rw [noBytes]
  cases rest with
  | nil => exact .inl rfl
  | cons f rest => exact .inr rfl

/-- The fields of a record begin with its first field. -/
theorem exists_encodeFields_cons (delimiter : UInt8) (f : List UInt8) (rest : List (List UInt8)) :
    ∃ more, encodeFields delimiter (f :: rest) = encodeField delimiter f ++ more := by
  cases rest with
  | nil => exact ⟨[], (List.append_nil _).symm⟩
  | cons f' rest => exact ⟨_, rfl⟩

/-- No line begins with a byte inside a character, unless with a delimiter. -/
theorem encodeFields_append_ne {delimiter b : UInt8} (inside : ¬ b.IsUTF8FirstByte)
    (other : delimiter ≠ b) (texts : List String) (bs rest : List UInt8) :
    encodeFields delimiter (texts.map Utf8.bytes) ++ lineFeed :: bs ≠ b :: rest := by
  have noBreak : lineFeed ≠ b := by
    rintro rfl
    exact inside (by decide)
  intro same
  match texts with
  | [] => exact noBreak (List.cons.inj same).1
  | text :: texts =>
      cases first : text.toList.head? with
      | some c =>
          obtain ⟨more, fields⟩ :=
            exists_encodeFields_cons delimiter (Utf8.bytes text) (texts.map Utf8.bytes)
          rw [List.map_cons, fields, List.append_assoc] at same
          rcases encodeField_append_cases delimiter text (more ++ lineFeed :: bs) with
            ⟨rest', front⟩ | front
          · rw [front] at same
            obtain ⟨rfl, -⟩ := List.cons.inj same
            exact inside (by decide)
          · exact inside (Utf8.isUTF8FirstByte_of_bytes_append first (front.symm.trans same))
      | none =>
          rcases encodeFields_cons_of_empty delimiter first (texts.map Utf8.bytes) with
            empty | line
          · rw [List.map_cons, empty] at same
            exact noBreak (List.cons.inj same).1
          · rw [List.map_cons, line] at same
            exact other (List.cons.inj same).1

/-- The mark of the byte order stands before a table only if it begins the first column. -/
theorem not_isMarked_writeTable {delimiter : UInt8} {columns : List String}
    (unmarked : ∀ c ∈ columns.head?, ¬ BeginsWithMark c) (rows : List Row) :
    ¬ IsMarked (writeTable delimiter columns rows) := by
  rw [writeTable, encode, List.flatMap_cons]
  generalize (rows.map (rowRecord columns)).flatMap (encodeRecord delimiter) = further
  rw [encodeRecord]
  by_cases noLine : (encodeFields delimiter (columns.map Utf8.bytes)).isEmpty = true
  · rw [if_pos noLine]
    exact not_isMarked_quote _
  rw [if_neg noLine, List.append_assoc]
  cases columns with
  | nil => exact absurd rfl noLine
  | cons text texts =>
      cases first : text.toList.head? with
      | some c =>
          obtain ⟨more, fields⟩ :=
            exists_encodeFields_cons delimiter (Utf8.bytes text) (texts.map Utf8.bytes)
          rw [List.map_cons, fields, List.append_assoc]
          exact not_isMarked_encodeField first (unmarked text rfl) _
      | none =>
          rcases encodeFields_cons_of_empty delimiter first (texts.map Utf8.bytes) with
            empty | line
          · rw [List.map_cons, empty] at noLine
            exact absurd rfl noLine
          · rw [List.map_cons, line]
            rintro ⟨rest, marked⟩
            -- a delimiter that is the first byte of the mark is not followed by the second one
            obtain ⟨rfl, second⟩ := List.cons.inj marked
            exact encodeFields_append_ne (by decide) (by decide) texts further _ second

/-! ## Tables -/

/-- **Tables say what their rows say as texts.** -/
theorem readTable_writeTable {delimiter : UInt8} (separates : IsDelimiter delimiter)
    {columns : List String} (unmarked : ∀ c ∈ columns.head?, ¬ BeginsWithMark c)
    (rows : List Row) :
    readTable delimiter (writeTable delimiter columns rows) = .ok (rows.map (rowRead columns)) := by
  have decoded := decode_encode separates
    (not_isMarked_writeTable unmarked rows : ¬ IsMarked (writeTable delimiter columns rows))
  have ofRow (row : Row) : withField [] (rowRecord columns row) =
      (withField "" (columns.map (fieldIn row))).map Utf8.bytes := by
    rw [map_withField, List.map_map]
    rfl
  have ofColumns : withField [] (columns.map Utf8.bytes) =
      (withField "" columns).map Utf8.bytes := (map_withField Utf8.bytes "" columns).symm
  rw [List.map_cons, List.map_map, ofColumns] at decoded
  exact rowsOf_eq_ok (fun row => length_withField_map (fieldIn row) "" "" columns)
    (decoded.trans (congrArg _ (List.map_congr_left fun row _ => ofRow row)))

end Crossmap.Delimited
