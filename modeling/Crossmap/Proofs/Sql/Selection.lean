import Crossmap.Proofs.Dict.Lookup
import Crossmap.Proofs.Sql.Names
import Crossmap.Sql.Store

/-! # Statements that select rows

A statement that selects rows names an object, and conditions with a column and the placeholder of
a literal each; `SelectText` is the rule by which it is read, whatever it was made of. The statement
by which a store reads an object through a filter means the segments of the object and of every
column of the filter, and its literals are handed over beside it, each under the number of its
placeholder. It means nothing else, so nothing that stands in a name or a literal becomes a part of
the statement (`store_read_selects`).

Names are followed by blanks, which is why a blank must not be the quote: with such quotes two
selections can have one text.
-/

namespace Crossmap.Sql

/-! ## The rules -/

/-- What a statement that selects rows asks for. -/
structure Selection where
  /-- The segments of the name of the object. -/
  object : List String
  /-- The segments of the names of columns, with the placeholders of their literals. -/
  conditions : List (List String × String)
  deriving DecidableEq

/-- The word before a condition. -/
def leadingWord (n : Nat) : String := if n = 1 then " WHERE " else " AND "

/-- What a text means as conditions that are numbered from a first one on. -/
inductive ConditionsText (d : Dialect) : Nat → List (List String × String) → List Char → Prop
  | none {n : Nat} : ConditionsText d n [] []
  | next {n : Nat} {column : List String} {conditions : List (List String × String)}
      {name text : List Char} (first : NameText d.quoteChar column name)
      (further : ConditionsText d (n + 1) conditions text) :
      ConditionsText d n ((column, d.placeholder n) :: conditions)
        ((leadingWord n).toList ++ (name ++ (" = ".toList ++ ((d.placeholder n).toList ++ text))))

/-- What a text means as a statement that selects rows. -/
inductive SelectText (d : Dialect) : Selection → String → Prop
  | mk {selection : Selection} {name rest : List Char} {text : String}
      (named : NameText d.quoteChar selection.object name)
      (filtered : ConditionsText d 1 selection.conditions rest)
      (whole : text.toList = "SELECT * FROM ".toList ++ (name ++ rest)) :
      SelectText d selection text

/-! ## Written statements -/

section Written

variable (d : Dialect)

/-- The conditions on columns that are numbered from a first one on. -/
def conditionsOn (first : Nat) (columns : List String) : List (List String × String) :=
  (columns.zipIdx first).map fun c => (Text.segments c.1, d.placeholder c.2)

/-- The selection of the rows of an object that satisfy a filter. -/
def selectionOf (object : String) (filter : Filter) : Selection :=
  ⟨Text.segments object, conditionsOn d 1 filter.keys⟩

/-- A further column is the first condition, and the others are numbered after it. -/
theorem conditionsOn_cons (first : Nat) (column : String) (columns : List String) :
    conditionsOn d first (column :: columns) =
      (Text.segments column, d.placeholder first) :: conditionsOn d (first + 1) columns := rfl

/-- Conditions are written with the word before the first of them in front, and with the word before
any other between them. -/
theorem conditionsText_conditions {first : Nat} (numbered : first ≠ 0) {columns : List String}
    (some : columns ≠ []) :
    ConditionsText d first (conditionsOn d first columns)
      (leadingWord first ++ Text.joinWith " AND " (d.conditions first columns)).toList := by
  induction columns generalizing first with
  | nil => exact absurd rfl some
  | cons column rest ih =>
      have name := nameText_quoteName d column
      rw [conditionsOn_cons, Dialect.conditions]
      cases rest with
      | nil =>
          have alone := ConditionsText.next (n := first) name .none
          simp only [Dialect.conditions, Text.joinWith, String.toList_append, List.append_assoc,
            List.append_nil] at alone ⊢
          exact alone
      | cons next rest =>
          have later : leadingWord (first + 1) = " AND " := if_neg (by omega)
          have further := ih (Nat.succ_ne_zero first) (List.cons_ne_nil next rest)
          have joined := ConditionsText.next (n := first) name further
          rw [later] at joined
          rw [Text.joinWith_cons (by simp [Dialect.conditions])]
          simp only [String.toList_append, List.append_assoc] at joined ⊢
          exact joined

/-- The conditions that are written mean the columns, with their placeholders. -/
theorem conditionsText_whereClause (columns : List String) :
    ConditionsText d 1 (conditionsOn d 1 columns) (d.whereClause columns).toList := by
  cases columns with
  | nil => exact .none
  | cons column rest =>
      rw [Dialect.whereClause, if_neg (by simp)]
      exact conditionsText_conditions d Nat.one_ne_zero (List.cons_ne_nil column rest)

/-- A statement that is written means its selection. -/
theorem selectText_of_written (object : String) (filter : Filter) :
    SelectText d (selectionOf d object filter) (d.selectText object filter) := by
  refine .mk (nameText_quoteName d object) (conditionsText_whereClause d filter.keys) ?_
  rw [Dialect.selectText, String.toList_append, String.toList_append, List.append_assoc]

/-- What has the same columns is selected by the same statement. -/
theorem selectText_congr (object : String) {filter filter' : Filter}
    (columns : filter'.keys = filter.keys) :
    d.selectText object filter' = d.selectText object filter := by
  rw [Dialect.selectText, Dialect.selectText, columns]

end Written

/-! ## Statements are read in one way -/

section Unique

variable {d : Dialect}

/-- A name ends where a blank follows. -/
theorem endsName_blank (notBlank : d.quoteChar ≠ ' ') (rest : List Char) :
    EndsName d.quoteChar (' ' :: rest) := by
  constructor
  · intro c member
    obtain rfl := Option.some.inj member
    exact ⟨by decide, notBlank.symm⟩
  · exact nofun

/-- A blank stands before every condition. -/
theorem exists_leadingWord (n : Nat) : ∃ rest, (leadingWord n).toList = ' ' :: rest := by
  by_cases first : n = 1
  · rw [leadingWord, if_pos first]
    exact ⟨_, rfl⟩
  · rw [leadingWord, if_neg first]
    exact ⟨_, rfl⟩

/-- A name ends where conditions follow or nothing does. -/
theorem ConditionsText.endsName (notBlank : d.quoteChar ≠ ' ') {n : Nat}
    {conditions : List (List String × String)} {text : List Char}
    (read : ConditionsText d n conditions text) : EndsName d.quoteChar text := by
  cases read with
  | none => exact ⟨nofun, nofun⟩
  | next first further =>
      obtain ⟨rest, blank⟩ := exists_leadingWord n
      rw [blank]
      exact endsName_blank notBlank _

/-- A text means at most one list of conditions. -/
theorem ConditionsText.unique (apart : d.QuotesApart) (notBlank : d.quoteChar ≠ ' ') {n : Nat}
    {conditions conditions' : List (List String × String)} {text : List Char}
    (read : ConditionsText d n conditions text) (read' : ConditionsText d n conditions' text) :
    conditions = conditions' := by
  induction read generalizing conditions' with
  | @none n =>
      generalize nothing : ([] : List Char) = text at read'
      cases read' with
      | none => rfl
      | next first further =>
          obtain ⟨rest, blank⟩ := exists_leadingWord n
          rw [blank] at nothing
          cases nothing
  | @next n column conditions name text first further ih =>
      generalize same : (leadingWord n).toList ++
        (name ++ (" = ".toList ++ ((d.placeholder n).toList ++ text))) = whole at read'
      cases read' with
      | none =>
          obtain ⟨rest, blank⟩ := exists_leadingWord n
          rw [blank] at same
          cases same
      | next first' further' =>
          have names := List.append_cancel_left same
          obtain ⟨rfl, after⟩ := first.unique apart first' names
            (endsName_blank notBlank _) (endsName_blank notBlank _)
          have tails := List.append_cancel_left (List.append_cancel_left after)
          rw [← tails] at further'
          rw [ih further']

/-- **A statement is read in one way.** -/
theorem SelectText.unique (apart : d.QuotesApart) (notBlank : d.quoteChar ≠ ' ')
    {selection selection' : Selection} {text : String} (read : SelectText d selection text)
    (read' : SelectText d selection' text) : selection = selection' := by
  obtain ⟨named, filtered, whole⟩ := read
  obtain ⟨named', filtered', whole'⟩ := read'
  have same := List.append_cancel_left (whole.symm.trans whole')
  obtain ⟨objects, after⟩ := named.unique apart named' same (filtered.endsName notBlank)
    (filtered'.endsName notBlank)
  rw [← after] at filtered'
  have all := filtered.unique apart notBlank filtered'
  cases selection
  cases selection'
  cases objects
  cases all
  rfl

end Unique

/-! ## Reading a store -/

/-- The double quote can be told from dots and identifiers. -/
theorem quotesApart_of_quoteChar {d : Dialect} (double : d.quoteChar = '"') : d.QuotesApart := by
  constructor
  · rw [double]
    decide
  · rw [double]
    decide

/-- Every condition of a selection stands under the place of its column in the filter. -/
theorem getElem?_conditionsOn (d : Dialect) (first : Nat) (columns : List String) (i : Nat) :
    (conditionsOn d first columns)[i]? =
      columns[i]?.map fun column => (Text.segments column, d.placeholder (first + i)) := by
  rw [conditionsOn, List.getElem?_map, List.getElem?_zipIdx, Option.map_map]
  rfl

/-- **A store is read with one statement, which says what was asked for and nothing else.** Its text
means the segments of the object, and one condition for each entry of the filter: the segments of
the column, and the placeholder with the number of the entry, under which the literal of the entry
is handed over. Unless a blank is the quote the text means nothing else. No two names are written in
the same way, and the text is the same for all literals. -/
theorem store_read_selects {d : Dialect} (apart : d.QuotesApart) (object : String)
    (filter : Filter) :
    (∃ (selection : Selection) (literals : List String),
      (∀ {κ : Type} [Connection κ] (connection : κ),
        let answer := Connection.query (d.selectText object filter) literals connection
        RecordSource.read object filter (Store.mk connection d) = (answer.1, ⟨answer.2, d⟩)) ∧
      SelectText d selection (d.selectText object filter) ∧
      (d.quoteChar ≠ ' ' →
        ∀ other, SelectText d other (d.selectText object filter) → other = selection) ∧
      selection.object = Text.segments object ∧
      selection.conditions.length = filter.size ∧ literals.length = filter.size ∧
      ∀ (i : Nat) (column literal : String), filter.entries[i]? = some (column, literal) →
        selection.conditions[i]? = some (Text.segments column, d.placeholder (i + 1)) ∧
          literals[i]? = some literal) ∧
    Function.Injective d.quoteName ∧
    ∀ filter' : Filter, filter'.keys = filter.keys →
      d.selectText object filter' = d.selectText object filter := by
  have read := selectText_of_written d object filter
  refine ⟨⟨selectionOf d object filter, filter.values, fun connection => rfl, read, ?_, rfl, ?_, ?_,
    ?_⟩, quoteName_injective apart, fun _ columns => selectText_congr d object columns⟩
  · intro notBlank other read'
    exact read'.unique apart notBlank read
  · rw [selectionOf, conditionsOn, List.length_map, List.length_zipIdx, Dict.keys, List.length_map]
    rfl
  · rw [Dict.values, List.length_map]
    rfl
  · intro i column literal entry
    constructor
    · rw [selectionOf, getElem?_conditionsOn, Dict.keys, List.getElem?_map, entry, Nat.add_comm]
      rfl
    · rw [Dict.values, List.getElem?_map, entry]
      rfl

/-- A name with a quote and a literal that looks like a condition. -/
def deedFilter : Filter := .ofList [("1st \"part\"", "x"), ("KIND", "' OR '1' = '1")]

theorem store_read_selects_deeds :
    Dialect.postgres.QuotesApart ∧
      Dialect.postgres.selectText "public.DEEDS" deedFilter =
        "SELECT * FROM public.DEEDS WHERE \"1st \"\"part\"\"\" = $1 AND KIND = $2" ∧
      ∃ selection, SelectText .postgres selection
          (Dialect.postgres.selectText "public.DEEDS" deedFilter) ∧
        selection.object = ["public", "DEEDS"] ∧
        selection.conditions[1]? = some (["KIND"], "$2") := by
  have apart : Dialect.postgres.QuotesApart := quotesApart_of_quoteChar rfl
  obtain ⟨⟨selection, literals, -, read, -, object, -, -, aligned⟩, -⟩ :=
    store_read_selects apart "public.DEEDS" deedFilter
  have kind := aligned 1 "KIND" "' OR '1' = '1" (by decide)
  have segments : Text.segments "public.DEEDS" = ["public", "DEEDS"] := by decide +kernel
  have segment : Text.segments "KIND" = ["KIND"] := by decide +kernel
  rw [segments] at object
  rw [segment] at kind
  exact ⟨apart, by decide +kernel, selection, read, object, kind.1⟩

/-- A dialect whose quote is the blank. -/
def blankQuotes : Dialect := { Dialect.generic with quoteChar := ' ' }

/-- **Blank quotes are ambiguous.** A statement with blanks as quotes means what was asked for, and
something else as well. With any quotes, a filter in which a column is given twice asks for the
later literal alone. -/
theorem blank_quotes_are_ambiguous :
    let text := blankQuotes.selectText "a b" (.ofList [("x WHERE y z", "1")])
    let repeated : Filter := .ofList [("A", "1"), ("A", "2")]
    blankQuotes.QuotesApart ∧
      SelectText blankQuotes ⟨["a b"], [(["x WHERE y z"], "?")]⟩ text ∧
      SelectText blankQuotes ⟨["a b WHERE x"], [(["y z"], "?")]⟩ text ∧
      Dialect.generic.selectText "T" repeated = "SELECT * FROM T WHERE A = ?" ∧
      repeated.values = ["2"] := by
  have asked := selectText_of_written blankQuotes "a b" (.ofList [("x WHERE y z", "1")])
  have other := selectText_of_written blankQuotes "a b WHERE x" (.ofList [("y z", "1")])
  have one : selectionOf blankQuotes "a b" (.ofList [("x WHERE y z", "1")]) =
      ⟨["a b"], [(["x WHERE y z"], "?")]⟩ := by decide +kernel
  have another : selectionOf blankQuotes "a b WHERE x" (.ofList [("y z", "1")]) =
      ⟨["a b WHERE x"], [(["y z"], "?")]⟩ := by decide +kernel
  have same : blankQuotes.selectText "a b WHERE x" (.ofList [("y z", "1")]) =
      blankQuotes.selectText "a b" (.ofList [("x WHERE y z", "1")]) := by decide +kernel
  rw [one] at asked
  rw [another, same] at other
  have apart : blankQuotes.QuotesApart := by
    constructor <;> decide
  exact ⟨apart, asked, other, by decide +kernel, by decide +kernel⟩

end Crossmap.Sql
