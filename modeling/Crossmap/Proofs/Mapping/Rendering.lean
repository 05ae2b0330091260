import Crossmap.Proofs.Mapping.ModelReading
import Crossmap.Proofs.Mapping.WellFormed

/-! # Models written as texts

`Model.render` writes a model as a mapping text: its name where that is a name, its value maps, its
data declarations and its inspections, in the canonical spelling and layout. The tokens it is made
of derive the model (`derives_tokens`), so reading what is written gives the model again, and every
model that is read from some text can be written and read so (`parse_render`).
-/

namespace Crossmap.Mapping

/-! ## Tokens of declarations -/

/-- The tokens of segments joined by dots. -/
def dotted : List String → List Token
  | [] => []
  | [s] => [.name s]
  | s :: rest => .name s :: .symbol .dot :: dotted rest

/-- The tokens of a dotted name. -/
def pathTokens (path : String) : List Token := dotted (Text.segments path)

/-- The token of a marker, or the tokens of a dotted name. -/
def targetTokens (path : String) : List Token :=
  match path.toList with
  | '$' :: cs => [.marker (String.ofList cs)]
  | _ => pathTokens path

/-- The tokens of a column. -/
def Column.tokens (c : Column) : List Token :=
  .name c.sourceColumn :: .symbol .arrow :: targetTokens c.targetPath ++
    match c.valueMap with
    | none => []
    | some map => [.symbol .comma, .name map]

/-- The tokens of a column clause. -/
def columnClauseTokens (c : Column) : List Token :=
  .name "COLUMN" :: c.tokens ++ [.symbol .semicolon]

/-- The tokens of a clause that both kinds of declaration can hold. -/
def CommonClause.tokens : CommonClause → List Token
  | .direction d => [.name "DIRECTION", .symbol d.symbol, .symbol .semicolon]
  | .ident x => [.name "IDENT", .name x, .symbol .semicolon]
  | .conversion c =>
    [.name "CONVERSION", .name c.valueMap, .symbol .leftParen, .name c.sourceColumn,
      .symbol .doubleDash, .name c.targetAlias, .symbol .rightParen, .symbol .semicolon]
  | .shortName a =>
    .name "ALIAS" :: .name a.shortName :: .symbol .tilde :: pathTokens a.className ++
      [.symbol .semicolon]
  | .withBlock w =>
    .name "WITH" :: .name w.aliasName :: .symbol .leftBrace :: w.columns.flatMap columnClauseTokens ++
      [.symbol .rightBrace]
  | .column c => columnClauseTokens c

/-- The tokens of a clause of a data declaration. -/
def DataClause.tokens : DataClause → List Token
  | .common c => c.tokens
  | .filter column literal =>
    [.name "WHERE", .name column, .symbol .equals, .quoted literal, .symbol .semicolon]
  | .annexe path => .name "ANNEXE" :: pathTokens path ++ [.symbol .semicolon]
  | .annexed source => [.name "ANNEXED", .name source, .symbol .semicolon]
  | .join j =>
    [.name "JOIN", .name j.joinType, .name j.source, .name "ON", .name j.leftColumn,
      .symbol .equals, .name j.rightColumn, .symbol .semicolon]
  | .nesting n => [.name "NESTING", .name n.child, .name "BY", .name n.byColumn, .symbol .semicolon]

/-- The tokens of a clause of an inspection. -/
def InspectionClause.tokens : InspectionClause → List Token
  | .common c => c.tokens
  | .parent column => [.name "PARENT", .name column, .symbol .semicolon]
  | .structAttr column map => [.name "STRUCTATTR", .name column, .name map, .symbol .semicolon]
  | .classColumn column map => [.name "CLASSCOL", .name column, .name map, .symbol .semicolon]

/-- The tokens of a header. -/
def Header.tokens (h : Header) : List Token :=
  .name h.name :: .name "FROM" :: .name h.object :: .name "CLASS" :: pathTokens h.className ++
    [.symbol .leftBrace]

/-- The tokens of an entry of a value map. -/
def entryTokens (e : Code × String) : List Token :=
  .code e.1 :: .symbol .arrow :: pathTokens e.2 ++ [.symbol .semicolon]

/-! ## Clauses of declarations -/

/-- The clauses of a direction and an ident column. -/
def leadingClauses (direction : Direction) (identColumn : Option String) : List CommonClause :=
  .direction direction :: identColumn.toList.map .ident

/-- The clauses of what both kinds of declaration can hold more than once. -/
def trailingClauses (conversions : List ConversionCall) (aliases : List AliasDeclaration)
    (withBlocks : List WithBlock) (columns : List Column) : List CommonClause :=
  conversions.map .conversion ++ aliases.map .shortName ++ withBlocks.map .withBlock ++
    columns.map .column

/-- The header of a data declaration. -/
def DataDeclaration.header (d : DataDeclaration) : Header := ⟨d.name, d.object, d.className⟩

/-- The clauses of a data declaration. -/
def DataDeclaration.clauses (d : DataDeclaration) : List DataClause :=
  (leadingClauses d.direction d.identColumn).map .common ++
    d.filter.entries.map (fun e => .filter e.1 e.2) ++ d.annexeTargets.map .annexe ++
    d.annexedSources.map .annexed ++ d.joins.map .join ++ d.nestings.map .nesting ++
    (trailingClauses d.conversions d.aliases d.withBlocks d.columns).map .common

/-- The header of an inspection. -/
def Inspection.header (i : Inspection) : Header := ⟨i.name, i.object, i.className⟩

/-- The clause of a column that stands with its value map. -/
def togetherClause (clause : String → String → InspectionClause) :
    Option String → Option String → List InspectionClause
  | some column, some map => [clause column map]
  | _, _ => []

/-- The clauses of an inspection. -/
def Inspection.clauses (i : Inspection) : List InspectionClause :=
  (leadingClauses i.direction i.identColumn).map .common ++ i.parentColumn.toList.map .parent ++
    togetherClause .structAttr i.structAttrColumn i.structAttrMap ++
    togetherClause .classColumn i.classColumn i.classMap ++
    (trailingClauses i.conversions i.aliases i.withBlocks i.columns).map .common

/-- The tokens of a statement. -/
def Statement.tokens : Statement → List Token
  | .valueMap v =>
    .name "VALUEMAP" :: .name v.name :: .symbol .leftBrace :: v.entries.entries.flatMap entryTokens ++
      [.symbol .rightBrace]
  | .data d =>
    .name "DATA" :: d.header.tokens ++ d.clauses.flatMap DataClause.tokens ++ [.symbol .rightBrace]
  | .inspection i =>
    .name "INSPECTION" :: i.header.tokens ++ i.clauses.flatMap InspectionClause.tokens ++
      [.symbol .rightBrace]

/-- The statements of a model. -/
def Model.statements (m : Model) : List Statement :=
  m.valueMaps.values.map .valueMap ++ m.data.map .data ++ m.inspections.map .inspection

/-- The tokens that name a model, where its name is one. -/
def nameTokens (name : String) : List Token :=
  if isName name.toList then [.name "LM", .name name, .symbol .semicolon] else []

/-- The tokens of a model. -/
def Model.tokens (m : Model) : List Token :=
  nameTokens m.name ++ m.statements.flatMap Statement.tokens

/-- **A model as a mapping text.** -/
def Model.render (m : Model) : String := String.ofList (layout m.tokens)

/-! ## Clauses say what they are made from -/

/-- Pairs with distinct keys are a map as they stand. -/
theorem lastWins_entries {κ α : Type} [DecidableEq κ] (d : Dict κ α) : lastWins d.entries = d :=
  (ofList_eq_lastWins d.entries).symm.trans (Dict.ofList_entries d)

/-- A data declaration is made of its header and its clauses. -/
theorem data_header_clauses (d : DataDeclaration) : d.header.data d.clauses = d := by
  obtain ⟨name, object, className, direction, identColumn, filter, conversions, aliases, withBlocks,
    annexeTargets, annexedSources, joins, nestings, columns⟩ := d
  simp only [Header.data, DataDeclaration.header, DataDeclaration.clauses, leadingClauses,
    trailingClauses, lastGiven]
  cases identColumn <;> simp [List.filterMap_cons, Function.comp_def, lastWins_entries]

/-- The clauses of a well-formed inspection say what it says. -/
theorem inspection_header_clauses {i : Inspection} (wellFormed : i.WellFormed) :
    i.header.inspection i.clauses = i := by
  obtain ⟨name, object, className, direction, identColumn, parentColumn, structAttrColumn,
    structAttrMap, classColumn, classMap, conversions, aliases, withBlocks, columns⟩ := i
  obtain ⟨column, rfl, -⟩ := wellFormed.identColumn
  simp only [Header.inspection, Inspection.header, Inspection.clauses, leadingClauses,
    trailingClauses, lastGiven]
  cases parentColumn
  all_goals
    rcases wellFormed.structAttr with ⟨rfl, rfl⟩ | ⟨s, s', rfl, rfl, -, -⟩
    all_goals
      rcases wellFormed.classColumn with ⟨rfl, rfl⟩ | ⟨c, c', rfl, rfl, -, -⟩
      all_goals simp [togetherClause, List.filterMap_cons, Function.comp_def]

/-- The value maps of a model stand under their names. -/
theorem namedMaps_statements {m : Model} (wellFormed : m.BodyWellFormed) :
    namedMaps m.statements = m.valueMaps.entries := by
  have maps : m.statements.filterMap Statement.valueMap? = m.valueMaps.values := by
    simp [Model.statements, Function.comp_def]
  have same : ∀ e ∈ m.valueMaps.entries, (e.2.name, e.2) = e :=
    fun e member => Prod.ext (wellFormed.keys e member).symm rfl
  rw [namedMaps, maps, Dict.values, List.map_map]
  exact (List.map_congr_left same).trans (List.map_id' _)

/-! ## Tokens derive what they are made from -/

/-- Tokens that derive something and can be spelled. -/
def Writes {α : Type} (item : List Token → α → Prop) (ts : List Token) (a : α) : Prop :=
  item ts a ∧ Lexical ts

/-- Items written one after another are derived as their repetition. -/
theorem writes_flatMap {α : Type} {item : List Token → α → Prop} {tokens : α → List Token}
    {items : List α} (each : ∀ a ∈ items, Writes item (tokens a) a) :
    Writes (Repeated item) (items.flatMap tokens) items := by
  induction items with
  | nil => exact ⟨.nil, lexical_nil⟩
  | cons a items ih =>
      obtain ⟨first, lexical⟩ := each a List.mem_cons_self
      obtain ⟨further, others⟩ := ih fun b member => each b (List.mem_cons_of_mem a member)
      rw [List.flatMap_cons]
      exact ⟨.cons first further, lexical_append.mpr ⟨lexical, others⟩⟩

/-- Names joined by dots are written as the path that they are the segments of. -/
theorem writes_dotted {segments : List String} (some : segments ≠ [])
    (names : ∀ s ∈ segments, IsName s) :
    Writes DerivesPath (dotted segments) (Text.joinWith "." segments) := by
  induction segments with
  | nil => exact (some rfl).elim
  | cons s rest ih =>
      obtain ⟨name, others⟩ := List.forall_mem_cons.mp names
      cases rest with
      | nil => exact ⟨.last s, lexical_cons.mpr ⟨name, lexical_nil⟩⟩
      | cons s' rest =>
          obtain ⟨further, lexical⟩ := ih nofun others
          exact ⟨.more s further, lexical_cons.mpr ⟨name, lexical_cons.mpr ⟨trivial, lexical⟩⟩⟩

/-- A dotted name is written as a path. -/
theorem writes_pathTokens {path : String} (dotted : IsPath path) :
    Writes DerivesPath (pathTokens path) path := by
  have segments : Text.segments path ≠ [] :=
    mt List.map_eq_nil_iff.mp (Text.splitAt_ne_nil '.' path.toList)
  have writes := writes_dotted segments dotted
  rwa [Text.joinWith_segments] at writes

/-- No dotted name begins as a marker does. -/
theorem not_isPath_of_dollar {path : String} {cs : List Char} (dollar : path.toList = '$' :: cs) :
    ¬IsPath path := by
  intro dotted
  obtain ⟨piece, further, pieces⟩ := List.exists_cons_of_ne_nil (Text.splitAt_ne_nil '.' cs)
  have first : String.ofList ('$' :: piece) ∈ Text.segments path := by
    rw [Text.segments, dollar, Text.splitAt, if_neg (by decide), pieces]
    exact List.mem_cons_self
  have name := dotted _ first
  rw [IsName, String.toList_ofList] at name
  cases name

/-- A target path is written as a marker or as a path. -/
theorem writes_targetTokens {path : String} (target : IsTarget path) :
    Writes DerivesTarget (targetTokens path) path := by
  rcases target with dotted | ⟨s, name, rfl⟩
  · obtain ⟨derived, lexical⟩ := writes_pathTokens dotted
    have noMarker : targetTokens path = pathTokens path := by
      rw [targetTokens]
      split
      · next dollar => exact (not_isPath_of_dollar dollar dotted).elim
      · rfl
    rw [noMarker]
    exact ⟨.path derived, lexical⟩
  · have marker : targetTokens (markerPath s) = [.marker s] := by
      simp [targetTokens, markerPath]
    rw [marker]
    exact ⟨.marker s, lexical_cons.mpr ⟨name, lexical_nil⟩⟩

/-- A column is written with its path and its value map. -/
theorem writes_column {c : Column} (wellFormed : c.WellFormed) :
    Writes DerivesColumn c.tokens c := by
  obtain ⟨column, path, valueMap⟩ := c
  obtain ⟨derived, lexical⟩ := writes_targetTokens wellFormed.targetPath
  have bound := DerivesBinding.columnFirst column derived
  have front : Lexical (.name column :: .symbol .arrow :: targetTokens path) :=
    lexical_cons.mpr ⟨wellFormed.sourceColumn, lexical_cons.mpr ⟨trivial, lexical⟩⟩
  cases valueMap with
  | none =>
      rw [Column.tokens, List.append_nil]
      exact ⟨.plain bound, front⟩
  | some map =>
      refine ⟨.mapped map bound, lexical_append.mpr ⟨front, ?_⟩⟩
      exact lexical_cons.mpr ⟨trivial, lexical_cons.mpr ⟨wellFormed.valueMap map rfl, lexical_nil⟩⟩

theorem writes_columnClause {c : Column} (wellFormed : c.WellFormed) :
    Writes DerivesColumnClause (columnClauseTokens c) c := by
  obtain ⟨derived, lexical⟩ := writes_column wellFormed
  refine ⟨.intro derived, ?_⟩
  simp +decide [columnClauseTokens, lexical]

/-- A well-formed clause of both kinds of declaration is written as one. -/
theorem writes_commonClause {c : CommonClause} (wellFormed : c.WellFormed) :
    Writes DerivesCommonClause c.tokens c := by
  cases c with
  | direction d =>
      refine ⟨.direction d, ?_⟩
      simp +decide [CommonClause.tokens]
  | ident column =>
      refine ⟨.ident column, ?_⟩
      have name : IsName column := wellFormed
      simp +decide [CommonClause.tokens, name]
  | conversion c =>
      obtain ⟨map, column, target⟩ : c.WellFormed := wellFormed
      refine ⟨.conversion c, ?_⟩
      simp +decide [CommonClause.tokens, map, column, target]
  | shortName a =>
      obtain ⟨short, className⟩ : a.WellFormed := wellFormed
      obtain ⟨derived, lexical⟩ := writes_pathTokens className
      refine ⟨.shortName a derived, ?_⟩
      simp +decide [CommonClause.tokens, short, lexical]
  | withBlock w =>
      obtain ⟨aliasName, columns⟩ : w.WellFormed := wellFormed
      obtain ⟨derived, lexical⟩ :=
        writes_flatMap fun c member => writes_columnClause (columns c member)
      refine ⟨.withBlock w derived .absent, ?_⟩
      simp +decide [CommonClause.tokens, aliasName, lexical]
  | column c =>
      obtain ⟨derived, lexical⟩ := writes_columnClause wellFormed
      exact ⟨.column derived, lexical⟩

/-- A well-formed clause of a data declaration is written as one. -/
theorem writes_dataClause {c : DataClause} (wellFormed : c.WellFormed) :
    Writes DerivesDataClause c.tokens c := by
  cases c with
  | common c =>
      obtain ⟨derived, lexical⟩ := writes_commonClause wellFormed
      exact ⟨.common derived, lexical⟩
  | filter column literal =>
      have name : IsName column := wellFormed
      refine ⟨.filter column literal .present, ?_⟩
      simp +decide [DataClause.tokens, name]
  | annexe path =>
      obtain ⟨derived, lexical⟩ := writes_pathTokens wellFormed
      refine ⟨.annexe derived, ?_⟩
      simp +decide [DataClause.tokens, lexical]
  | annexed source =>
      have name : IsName source := wellFormed
      refine ⟨.annexed source, ?_⟩
      simp +decide [DataClause.tokens, name]
  | join j =>
      obtain ⟨kind, source, left, right⟩ : j.WellFormed := wellFormed
      refine ⟨.join j, ?_⟩
      simp +decide [DataClause.tokens, kind, source, left, right]
  | nesting n =>
      obtain ⟨child, column⟩ : n.WellFormed := wellFormed
      refine ⟨.nesting n, ?_⟩
      simp +decide [DataClause.tokens, child, column]

/-- A well-formed clause of an inspection is written as one. -/
theorem writes_inspectionClause {c : InspectionClause} (wellFormed : c.WellFormed) :
    Writes DerivesInspectionClause c.tokens c := by
  cases c with
  | common c =>
      obtain ⟨derived, lexical⟩ := writes_commonClause wellFormed
      exact ⟨.common derived, lexical⟩
  | parent column =>
      have name : IsName column := wellFormed
      refine ⟨.parent column, ?_⟩
      simp +decide [InspectionClause.tokens, name]
  | structAttr column map =>
      obtain ⟨first, second⟩ : IsName column ∧ IsName map := wellFormed
      refine ⟨.structAttr column map, ?_⟩
      simp +decide [InspectionClause.tokens, first, second]
  | classColumn column map =>
      obtain ⟨first, second⟩ : IsName column ∧ IsName map := wellFormed
      refine ⟨.classColumn column map, ?_⟩
      simp +decide [InspectionClause.tokens, first, second]

/-- A well-formed header is written as one. -/
theorem writes_header {h : Header} (wellFormed : h.WellFormed) :
    Writes DerivesHeader h.tokens h := by
  obtain ⟨name, object, className⟩ := wellFormed
  obtain ⟨derived, lexical⟩ := writes_pathTokens className
  refine ⟨.intro h derived, ?_⟩
  simp +decide [Header.tokens, name, object, lexical]

/-- An entry with a dotted name for its path is written as one. -/
theorem writes_entry {e : Code × String} (dotted : IsPath e.2) :
    Writes DerivesEntry (entryTokens e) e := by
  obtain ⟨derived, lexical⟩ := writes_pathTokens dotted
  refine ⟨.intro e.1 derived, ?_⟩
  simp [entryTokens, lexical]

theorem wellFormed_of_mem_leadingClauses (direction : Direction) {identColumn : Option String}
    (ident : ∀ column ∈ identColumn, IsName column) :
    ∀ c ∈ leadingClauses direction identColumn, c.WellFormed := by
  refine List.forall_mem_cons.mpr ⟨trivial, List.forall_mem_map.mpr fun column member => ?_⟩
  exact ident column (Option.mem_toList.mp member)

theorem wellFormed_of_mem_trailingClauses {conversions : List ConversionCall}
    {aliases : List AliasDeclaration} {withBlocks : List WithBlock} {columns : List Column}
    (ofConversion : ∀ c ∈ conversions, c.WellFormed) (ofAlias : ∀ a ∈ aliases, a.WellFormed)
    (ofBlock : ∀ w ∈ withBlocks, w.WellFormed) (ofColumn : ∀ c ∈ columns, c.WellFormed) :
    ∀ c ∈ trailingClauses conversions aliases withBlocks columns, c.WellFormed := by
  simp only [trailingClauses, List.forall_mem_append, List.forall_mem_map]
  exact ⟨⟨⟨ofConversion, ofAlias⟩, ofBlock⟩, ofColumn⟩

/-- The clauses of a well-formed data declaration are well-formed. -/
theorem wellFormed_of_mem_dataClauses {d : DataDeclaration} (wellFormed : d.WellFormed) :
    ∀ c ∈ d.clauses, c.WellFormed := by
  have leading := wellFormed_of_mem_leadingClauses d.direction wellFormed.identColumn
  have trailing := wellFormed_of_mem_trailingClauses wellFormed.conversions wellFormed.aliases
    wellFormed.withBlocks wellFormed.columns
  simp only [DataDeclaration.clauses, List.forall_mem_append, List.forall_mem_map]
  exact ⟨⟨⟨⟨⟨⟨leading, wellFormed.filter⟩, wellFormed.annexeTargets⟩, wellFormed.annexedSources⟩,
    wellFormed.joins⟩, wellFormed.nestings⟩, trailing⟩

/-- A column and a value map that are named together make a well-formed clause. -/
theorem wellFormed_of_mem_togetherClause (clause : String → String → InspectionClause)
    (named : ∀ {s s'}, IsName s → IsName s' → (clause s s').WellFormed)
    {first second : Option String} (together : NamedTogether first second) :
    ∀ c ∈ togetherClause clause first second, c.WellFormed := by
  rcases together with ⟨rfl, rfl⟩ | ⟨s, s', rfl, rfl, name, name'⟩
  · exact nofun
  · exact List.forall_mem_singleton.mpr (named name name')

/-- The clauses of a well-formed inspection are well-formed. -/
theorem wellFormed_of_mem_inspectionClauses {i : Inspection} (wellFormed : i.WellFormed) :
    ∀ c ∈ i.clauses, c.WellFormed := by
  have ident : ∀ column ∈ i.identColumn, IsName column := by
    obtain ⟨column, named, name⟩ := wellFormed.identColumn
    rw [named]
    exact fun _ same => Option.some.inj same ▸ name
  have leading := wellFormed_of_mem_leadingClauses i.direction ident
  have trailing := wellFormed_of_mem_trailingClauses wellFormed.conversions wellFormed.aliases
    wellFormed.withBlocks wellFormed.columns
  have structAttr := wellFormed_of_mem_togetherClause .structAttr And.intro
    wellFormed.structAttr
  have classColumn := wellFormed_of_mem_togetherClause .classColumn And.intro
    wellFormed.classColumn
  simp only [Inspection.clauses, List.forall_mem_append, List.forall_mem_map]
  have parent (column : String) (member : column ∈ i.parentColumn.toList) : IsName column :=
    wellFormed.parentColumn column (Option.mem_toList.mp member)
  exact ⟨⟨⟨⟨leading, parent⟩, structAttr⟩, classColumn⟩, trailing⟩

/-- Well-formed statements are written as they are. -/
theorem writes_statement {statement : Statement} (wellFormed : statement.WellFormed) :
    Writes DerivesStatement statement.tokens statement := by
  cases statement with
  | valueMap v =>
      obtain ⟨name, paths⟩ : v.WellFormed := wellFormed
      obtain ⟨derived, lexical⟩ := writes_flatMap fun e member => writes_entry (paths e member)
      refine ⟨.valueMap v.name derived v.entries.nodup_keys .absent, ?_⟩
      simp +decide [Statement.tokens, name, lexical]
  | data d =>
      have wellFormed : d.WellFormed := wellFormed
      obtain ⟨headed, head⟩ :=
        writes_header (h := d.header) ⟨wellFormed.name, wellFormed.object, wellFormed.className⟩
      obtain ⟨derived, lexical⟩ := writes_flatMap fun c member =>
        writes_dataClause (wellFormed_of_mem_dataClauses wellFormed c member)
      constructor
      · have statement := DerivesStatement.data headed derived .absent
        rwa [data_header_clauses] at statement
      · simp +decide [Statement.tokens, head, lexical]
  | inspection i =>
      have wellFormed : i.WellFormed := wellFormed
      obtain ⟨headed, head⟩ :=
        writes_header (h := i.header) ⟨wellFormed.name, wellFormed.object, wellFormed.className⟩
      obtain ⟨derived, lexical⟩ := writes_flatMap fun c member =>
        writes_inspectionClause (wellFormed_of_mem_inspectionClauses wellFormed c member)
      have named : ∃ column, .common (.ident column) ∈ i.clauses := by
        rw [← Header.isSome_identColumn_iff (h := i.header), inspection_header_clauses wellFormed]
        obtain ⟨column, named, -⟩ := wellFormed.identColumn
        exact Option.isSome_of_eq_some named
      constructor
      · have statement := DerivesStatement.inspection headed derived named .absent
        rwa [inspection_header_clauses wellFormed] at statement
      · simp +decide [Statement.tokens, head, lexical]

/-- The statements of a well-formed model are written one after another. -/
theorem writes_statements {m : Model} (wellFormed : m.BodyWellFormed) :
    Writes (Repeated DerivesStatement) (m.statements.flatMap Statement.tokens) m.statements := by
  have statements : ∀ statement ∈ m.statements, statement.WellFormed := by
    simp only [Model.statements, List.forall_mem_append, List.forall_mem_map]
    refine ⟨⟨?_, wellFormed.data⟩, wellFormed.inspections⟩
    exact List.forall_mem_map.mpr wellFormed.valueMaps
  exact writes_flatMap fun statement member => writes_statement (statements statement member)

/-- The name of a model is written where it is one, and otherwise is that of the text. -/
theorem writes_name {source name : String} (named : IsName name ∨ name = source) :
    Writes (DerivesName source) (nameTokens name) name := by
  rw [nameTokens]
  split
  case isTrue isName =>
    refine ⟨.present name, ?_⟩
    have isName : IsName name := isName
    simp +decide [isName]
  case isFalse notName =>
    rw [named.resolve_left notName]
    exact ⟨.absent, lexical_nil⟩

/-- **A model is derived from the tokens that it is written with**, in a text of its own name where
that is no name. -/
theorem writes_tokens {source : String} {m : Model} (wellFormed : m.BodyWellFormed)
    (named : IsName m.name ∨ m.name = source) : Writes (Derives source) m.tokens m := by
  obtain ⟨derived, lexical⟩ := writes_statements wellFormed
  have head : Writes (DerivesName source) (nameTokens m.name) m.name := writes_name named
  have maps := namedMaps_statements wellFormed
  have nodup : ((namedMaps m.statements).map Prod.fst).Nodup := maps ▸ m.valueMaps.nodup_keys
  have same : Model.ofStatements m.name m.statements nodup = m := by
    obtain ⟨name, ⟨entries, _⟩, data, inspections⟩ := m
    simp only [Model.ofStatements, Model.mk.injEq, true_and]
    refine ⟨Dict.ext maps, ?_, ?_⟩
    · simp [Model.statements, Function.comp_def]
    · simp [Model.statements, Function.comp_def]
  constructor
  · have model := Derives.intro head.1 derived nodup
    rwa [same] at model
  · exact lexical_append.mpr ⟨head.2, lexical⟩

/-! ## Reading what is written -/

/-- What is written of a model is read as that model. -/
theorem parse_render_of_named {source : String} {m : Model} (wellFormed : m.BodyWellFormed)
    (named : IsName m.name ∨ m.name = source) : Model.parse source m.render = .ok m := by
  obtain ⟨derived, lexical⟩ := writes_tokens wellFormed named
  obtain ⟨tokens, tokenized, same⟩ := tokenize_layout lexical
  rw [Model.parse, Model.render, tokenized]
  refine ofTokens_eq_ok_iff_run.mpr (run_model_eq_ok_iff.mpr ⟨?_, rfl⟩)
  rwa [same]

/-- Whether a text gives itself a name at its head. -/
def HasHead (text name : String) : Prop :=
  ∃ tokens rest, tokenize text = .ok tokens ∧
    tokens.list.map LocatedToken.token =
      .name "LM" :: .name name :: .symbol .semicolon :: rest

/-- What is read from a text is well-formed, and named by the text or else after it. -/
theorem bodyWellFormed_of_parse {source text : String} {m : Model}
    (read : Model.parse source text = .ok m) :
    m.BodyWellFormed ∧ (IsName m.name ∧ HasHead text m.name ∨ m.name = source) := by
  rw [Model.parse] at read
  split at read
  case h_1 tokens tokenized =>
    have lexical := lexical_of_tokensFrom tokenized
    have derived := (run_model_eq_ok_iff.mp (ofTokens_eq_ok_iff_run.mp read)).1
    refine ⟨bodyWellFormed_of_derives derived lexical, ?_⟩
    generalize all : tokens.list.map LocatedToken.token = ts at derived lexical
    obtain ⟨headed, -, -⟩ := derived
    cases headed with
    | absent => exact .inr rfl
    | present name =>
        simp only [lexical_append, lexical_cons] at lexical
        exact .inl ⟨lexical.1.2.1, tokens, _, tokenized, all⟩
  case h_2 => cases read

/-- **Texts and models go back and forth.** A well-formed model with a name is read from what is
written of it, whatever the text is called. What is read from any text is well-formed and named by
the text or else after it, and is read once more from what is written of it. -/
theorem parse_render :
    (∀ (source : String) (m : Model), IsName m.name → m.BodyWellFormed →
      Model.parse source m.render = .ok m) ∧
    ∀ (source text : String) (m : Model), Model.parse source text = .ok m →
      m.BodyWellFormed ∧ (IsName m.name ∧ HasHead text m.name ∨ m.name = source) ∧
        Model.parse source m.render = .ok m := by
  refine ⟨fun source m name wellFormed => parse_render_of_named wellFormed (.inl name), ?_⟩
  intro source text m read
  obtain ⟨wellFormed, named⟩ := bodyWellFormed_of_parse read
  exact ⟨wellFormed, named, parse_render_of_named wellFormed (named.imp_left And.left)⟩

/-- A model with keywords for names, the least code, a literal full of escapes, and markers. -/
def estateModel : Model where
  name := "LM"
  valueMaps := ⟨[("DATA", ⟨"DATA", ⟨[(Int64.minValue, "Plot.Field"), (7, "WHERE")], by decide⟩⟩)],
    by decide⟩
  data := [{ DataDeclaration.bare "VALUEMAP" "FROM" "Estate.CLASS" with
    identColumn := some "IDENT"
    filter := ⟨[("WHERE", "a \"b\" \\ c\n\td\u00e9")], by decide⟩
    columns := [⟨"COLUMN", "$PARENT", none⟩, ⟨"ON", "owner.name", some "DATA"⟩] }]
  inspections := [{ Inspection.bare "I" "O" "C" with
    identColumn := some "ID"
    structAttrColumn := some "ROLE"
    structAttrMap := some "DATA" }]

theorem bodyWellFormed_estateModel : estateModel.BodyWellFormed where
  keys := by decide
  valueMaps := List.forall_mem_singleton.mpr ⟨by decide, by decide⟩
  data := List.forall_mem_singleton.mpr
    { name := by decide
      object := by decide
      className := by decide
      identColumn := by decide
      filter := by decide
      conversions := nofun
      aliases := nofun
      withBlocks := nofun
      annexeTargets := nofun
      annexedSources := nofun
      joins := nofun
      nestings := nofun
      columns := List.forall_mem_cons.mpr
        ⟨⟨by decide, .inr ⟨"PARENT", by decide, by decide⟩, nofun⟩,
          List.forall_mem_singleton.mpr ⟨by decide, .inl (by decide), by decide⟩⟩ }
  inspections := List.forall_mem_singleton.mpr
    { name := by decide
      object := by decide
      className := by decide
      identColumn := ⟨"ID", rfl, by decide⟩
      parentColumn := nofun
      structAttr := .inr ⟨"ROLE", "DATA", rfl, rfl, by decide, by decide⟩
      classColumn := .inl ⟨rfl, rfl⟩
      conversions := nofun
      aliases := nofun
      withBlocks := nofun
      columns := nofun }

theorem parse_render_estate :
    IsName estateModel.name ∧ estateModel.BodyWellFormed ∧
      Model.parse "estate" estateModel.render = .ok estateModel ∧
      (IsName estateModel.name ∧ HasHead estateModel.render estateModel.name ∨
        estateModel.name = "estate") := by
  have named : IsName estateModel.name := by decide
  have read := parse_render.1 "estate" estateModel named bodyWellFormed_estateModel
  have back := parse_render.2 "estate" estateModel.render estateModel read
  exact ⟨named, back.1, read, back.2.1⟩

end Crossmap.Mapping
