import Crossmap.Proofs.Conversion.Reading
import Crossmap.Proofs.Mapping.ModelReading

/-! # The rows that the filters of a text let through

A data declaration of a text is written with any number of filters. It reads the rows of its object
that satisfy those filters that no later one on a column of the same name overrules, and makes its
records of them (`reads_filtered_rows`). A filter that is overruled does not exclude anything
(`readRecords_overruled`).
-/

namespace Crossmap

open Mapping

variable {γ : Type}

/-! ## Data declarations in a text -/

namespace Mapping

/-- A data declaration as it is written: a header and clauses. -/
inductive DerivesData : List Token → Header × List DataClause → Prop
  | intro {head ts stop : List Token} {h : Header} {clauses : List DataClause}
      (headed : DerivesHeader head h) (derived : Repeated DerivesDataClause ts clauses)
      (stops : DerivesStop stop) :
      DerivesData (.name "DATA" :: head ++ ts ++ .symbol .rightBrace :: stop) (h, clauses)

/-- Statements, and the data declarations among them in their order. -/
inductive DerivesAllData : List Token → List Statement → List (Header × List DataClause) → Prop
  | nil : DerivesAllData [] [] []
  | data {ts rest : List Token} {statements : List Statement} {w : Header × List DataClause}
      {others : List (Header × List DataClause)} (first : DerivesData ts w)
      (further : DerivesAllData rest statements others) :
      DerivesAllData (ts ++ rest) (.data (w.1.data w.2) :: statements) (w :: others)
  | other {ts rest : List Token} {statement : Statement} {statements : List Statement}
      {others : List (Header × List DataClause)} (first : DerivesStatement ts statement)
      (noData : statement.data? = none) (further : DerivesAllData rest statements others) :
      DerivesAllData (ts ++ rest) (statement :: statements) others

/-- Whether a text, read under a name, is a mapping text whose data declarations are written so. -/
def WrittenIn (source text : String) (written : List (Header × List DataClause)) : Prop :=
  ∃ (tokens : Tokens) (head body : List Token) (name : String) (statements : List Statement),
    tokenize text = .ok tokens ∧ tokens.list.map LocatedToken.token = head ++ body ∧
      DerivesName source head name ∧ DerivesAllData body statements written ∧
      ((namedMaps statements).map Prod.fst).Nodup

/-- The clauses of every data declaration are found in the tokens that derive it. -/
theorem exists_derivesAllData {body : List Token} {statements : List Statement}
    (derived : Repeated DerivesStatement body statements) :
    ∃ written, DerivesAllData body statements written := by
  induction derived with
  | nil => exact ⟨[], .nil⟩
  | cons first _ ih =>
      obtain ⟨written, further⟩ := ih
      cases first with
      | data headed clauses stops =>
          exact ⟨_, .data (.intro headed clauses stops) further⟩
      | valueMap name entries nodup stops =>
          exact ⟨written, .other (.valueMap name entries nodup stops) rfl further⟩
      | inspection headed clauses named stops =>
          exact ⟨written, .other (.inspection headed clauses named stops) rfl further⟩

/-- Tokens with the clauses of their data declarations derive their statements. -/
theorem DerivesAllData.repeated {body : List Token} {statements : List Statement}
    {written : List (Header × List DataClause)} (derived : DerivesAllData body statements written) :
    Repeated DerivesStatement body statements := by
  induction derived with
  | nil => exact .nil
  | data first _ ih =>
      cases first with
      | intro headed clauses stops => exact .cons (.data headed clauses stops) ih
  | other first _ _ ih => exact .cons first ih

/-- The data declarations are those that the clauses written make up. -/
theorem DerivesAllData.filterMap_data? {body : List Token} {statements : List Statement}
    {written : List (Header × List DataClause)} (derived : DerivesAllData body statements written) :
    statements.filterMap Statement.data? = written.map fun w => w.1.data w.2 := by
  induction derived with
  | nil => rfl
  | data first further ih => exact congrArg (_ :: ·) ih
  | other first noData further ih => rw [List.filterMap_cons_none noData, ih]

/-- In a text that is read the clauses of its data declarations are written. -/
theorem exists_writtenIn {source text : String} {m : Model}
    (parsed : Model.parse source text = .ok m) : ∃ written, WrittenIn source text written := by
  rw [Model.parse] at parsed
  split at parsed
  case h_1 tokens tokenized =>
    have derived := (ofTokens_eq_ok_iff_derives source tokens m).mp parsed
    generalize all : tokens.list.map LocatedToken.token = ts at derived
    obtain ⟨headed, body, nodup⟩ := derived
    obtain ⟨written, data⟩ := exists_derivesAllData body
    exact ⟨written, tokens, _, _, _, _, tokenized, all, headed, data, nodup⟩
  case h_2 => exact nomatch parsed

/-- The data declarations of a model are those that are written in its text. -/
theorem WrittenIn.data {source text : String} {written : List (Header × List DataClause)}
    (writtenIn : WrittenIn source text written) {m : Model}
    (parsed : Model.parse source text = .ok m) :
    m.data = written.map fun w => w.1.data w.2 := by
  obtain ⟨tokens, head, body, name, statements, tokenized, all, headed, data, nodup⟩ := writtenIn
  have derived : Derives source (tokens.list.map LocatedToken.token)
      (.ofStatements name statements nodup) := all ▸ .intro headed data.repeated nodup
  rw [Model.parse, tokenized] at parsed
  obtain rfl := Except.ok.inj
    (parsed.symm.trans ((ofTokens_eq_ok_iff_derives source tokens _).mpr derived))
  exact data.filterMap_data?

/-! ## Filters -/

/-- Whether a clause is a filter on a column. -/
def DataClause.FiltersOn (column : String) (c : DataClause) : Prop :=
  ∃ literal, c = .filter column literal

/-- The clauses that filter are those of their own form. -/
theorem DataClause.filter?_eq_some_iff {c : DataClause} {column literal : String} :
    c.filter? = some (column, literal) ↔ c = .filter column literal := by
  cases c <;> simp

/-- A declaration keeps the last filter on every column. -/
theorem Header.get?_filter_eq_some_iff {h : Header} {clauses : List DataClause}
    {column literal : String} :
    (h.data clauses).filter.get? column = some literal ↔
      IsLast clauses (DataClause.FiltersOn column) (.filter column literal) := by
  have filters : (h.data clauses).filter = Dict.ofList (clauses.filterMap DataClause.filter?) :=
    (ofList_eq_lastWins _).symm
  have kinds : (fun c => ∃ e ∈ DataClause.filter? c, e.1 = column) =
      DataClause.FiltersOn column := by
    funext c
    apply propext
    constructor
    · rintro ⟨⟨_, literal⟩, given, rfl⟩
      exact ⟨literal, DataClause.filter?_eq_some_iff.mp given⟩
    · rintro ⟨literal, rfl⟩
      exact ⟨(column, literal), rfl, rfl⟩
  rw [filters, Dict.get?_ofList_eq_some_iff, isLast_filterMap_iff, kinds]
  constructor
  · rintro ⟨c, given, last⟩
    exact DataClause.filter?_eq_some_iff.mp given ▸ last
  · intro last
    exact ⟨_, rfl, last⟩

end Mapping

/-- A row satisfies a filter exactly if it has the literal in every column that has one. -/
theorem Row.satisfies_iff {row : Row} {filter : Filter} :
    row.satisfies filter = true ↔
      ∀ column literal, filter.get? column = some literal → row.text? column = some literal := by
  rw [Row.satisfies, List.all_eq_true]
  constructor
  · intro all column literal entry
    exact of_decide_eq_true (all _ (Dict.get?_eq_some_iff.mp entry))
  · intro all e member
    exact decide_eq_true (all e.1 e.2 (Dict.get?_eq_some_iff.mpr member))

/-- A row is read for a declaration exactly if it is one of those that its object holds and its
filter admits. -/
theorem mem_origins_iff {m : Model} {held : String → List Row} {reading : Reading}
    (declared : reading ∈ m.readings) {row : Row} :
    (reading, row) ∈ origins m held ↔ row ∈ reading.rows held := by
  constructor
  · intro member
    obtain ⟨reading', -, inRows⟩ := List.mem_flatMap.mp member
    obtain ⟨row', isRead, same⟩ := List.mem_map.mp inRows
    cases same
    exact isRead
  · intro isRead
    exact List.mem_flatMap.mpr ⟨reading, declared, List.mem_map_of_mem isRead⟩

/-- **Which rows are converted.** Every record that is read by a model of a text is made of one row
by one declaration. A data declaration makes records of those rows of its object that satisfy every
filter it is written with, except for filters that a later one on a column of the same name
overrules. -/
theorem reads_filtered_rows [IdentSource γ] {source text : String} {m : Model}
    (parsed : Model.parse source text = .ok m) {s s' : Session MemoryStore γ}
    {records : List Record} (ended : (readRecords m).exec s = (.ok records, s')) :
    List.Forall₂ (fun o record => o.1.Makes m o.2 record) (origins m s.stores.rows) records ∧
      (∃ written, WrittenIn source text written) ∧
      ∀ written, WrittenIn source text written →
        m.data = written.map (fun w => w.1.data w.2) ∧
        ∀ w ∈ written, ∀ row,
          (Reading.data (w.1.data w.2), row) ∈ origins m s.stores.rows ↔
            row ∈ s.stores.rows w.1.object ∧ ∀ column literal,
              IsLast w.2 (DataClause.FiltersOn column) (.filter column literal) →
                row.text? column = some literal := by
  obtain ⟨made, -⟩ := yields_readRecords (holds_memory _) m s s' records rfl ended
  refine ⟨made, exists_writtenIn parsed, fun written writtenIn => ?_⟩
  have data := writtenIn.data parsed
  refine ⟨data, fun w member row => ?_⟩
  have declared : Reading.data (w.1.data w.2) ∈ m.readings := by
    rw [Model.readings, data]
    exact List.mem_append_left _ (List.mem_map_of_mem (List.mem_map_of_mem member))
  rw [mem_origins_iff declared, Reading.rows, List.mem_filter, Row.satisfies_iff]
  simp only [Header.get?_filter_eq_some_iff]
  rfl

/-- A text with two filters on one column. -/
def lotsText : String :=
  "DATA P FROM LOTS CLASS Lot \x7b IDENT ID; WHERE KIND = \"A\"; WHERE KIND = \"B\"; \x7d"

def lotsHeader : Header := ⟨"P", "LOTS", "Lot"⟩

def lotsClauses : List DataClause :=
  [.common (.ident "ID"), .filter "KIND" "A", .filter "KIND" "B"]

def lotsModel : Model := { Model.bare "lots" with data := [lotsHeader.data lotsClauses] }

/-- One lot, of the kind that the second filter asks for. -/
def lotsRow : Row := .ofList [("ID", .string "1"), ("KIND", .string "B")]

def lotsSession : Session MemoryStore NumberedIdents :=
  ⟨MemoryStore.empty.insertRows "LOTS" [lotsRow], .fresh "n", .discard⟩

theorem reads_filtered_rows_lots :
    ∃ records ended, Model.parse "lots" lotsText = .ok lotsModel ∧
      (readRecords lotsModel).exec lotsSession = (.ok records, ended) ∧
      List.Forall₂ (fun o record => o.1.Makes lotsModel o.2 record)
          (origins lotsModel lotsSession.stores.rows) records ∧
        (∃ written, WrittenIn "lots" lotsText written) ∧
        ∀ written, WrittenIn "lots" lotsText written →
          lotsModel.data = written.map (fun w => w.1.data w.2) ∧
          ∀ w ∈ written, ∀ row,
            (Reading.data (w.1.data w.2), row) ∈ origins lotsModel lotsSession.stores.rows ↔
              row ∈ lotsSession.stores.rows w.1.object ∧ ∀ column literal,
                IsLast w.2 (DataClause.FiltersOn column) (.filter column literal) →
                  row.text? column = some literal := by
  have parsed : Model.parse "lots" lotsText = .ok lotsModel := by decide +kernel
  obtain ⟨records, after, ended⟩ :=
    Run.exists_exec_eq_ok (r := readRecords lotsModel) (s := lotsSession) (by decide +kernel)
  exact ⟨records, after, parsed, ended, reads_filtered_rows parsed ended⟩

/-- A row that does not satisfy a filter of the text makes a record, as a later filter on the same
column overrules it. -/
theorem readRecords_overruled :
    Model.parse "lots" lotsText = .ok lotsModel ∧
      WrittenIn "lots" lotsText [(lotsHeader, lotsClauses)] ∧
      .filter "KIND" "A" ∈ lotsClauses ∧ lotsRow.text? "KIND" ≠ some "A" ∧
      lotsSession.stores.rows lotsHeader.object = [lotsRow] ∧
      ((readRecords lotsModel).exec lotsSession).1 = .ok [.bare "Lot" "1"] := by
  refine ⟨by decide +kernel, ?_, by decide, by decide +kernel, rfl, by decide +kernel⟩
  have headed : DerivesHeader [.name "P", .name "FROM", .name "LOTS", .name "CLASS", .name "Lot",
      .symbol .leftBrace] lotsHeader := .intro lotsHeader (.last "Lot")
  have clauses : Repeated DerivesDataClause
      ([.name "IDENT", .name "ID", .symbol .semicolon] ++
        ([.name "WHERE", .name "KIND", .symbol .equals, .quoted "A", .symbol .semicolon] ++
          ([.name "WHERE", .name "KIND", .symbol .equals, .quoted "B", .symbol .semicolon] ++ [])))
      lotsClauses :=
    .cons (.common (.ident "ID")) (.cons (.filter "KIND" "A" .present)
      (.cons (.filter "KIND" "B" .present) .nil))
  have derived : DerivesAllData _ _ [(lotsHeader, lotsClauses)] :=
    .data (.intro headed clauses .absent) .nil
  have cut : (tokenize lotsText).map (fun ts => ts.list.map LocatedToken.token) = .ok
      (.name "DATA" :: [.name "P", .name "FROM", .name "LOTS", .name "CLASS", .name "Lot",
          .symbol .leftBrace] ++
        [.name "IDENT", .name "ID", .symbol .semicolon, .name "WHERE", .name "KIND",
          .symbol .equals, .quoted "A", .symbol .semicolon, .name "WHERE", .name "KIND",
          .symbol .equals, .quoted "B", .symbol .semicolon] ++ [.symbol .rightBrace]) := by
    decide +kernel
  obtain ⟨tokens, tokenized⟩ := exists_eq_ok_of_isOk (x := tokenize lotsText) (by decide +kernel)
  rw [tokenized] at cut
  exact ⟨tokens, [], _, _, _, tokenized, Except.ok.inj cut, .absent, derived, .nil⟩

end Crossmap
