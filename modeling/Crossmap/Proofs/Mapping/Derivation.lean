import Crossmap.Mapping.Grammar
import Crossmap.Proofs.Dict.Lookup

/-! # What the grammar of mapping texts derives

The grammar, said without a reader: for each of its nonterminals a relation between tokens and what
they stand for. `Derives` relates the tokens of a whole text to the model that they denote.

A declaration denotes what its clauses say together (`Header.data`, `Header.inspection`): of the
clauses that it can hold once only the last one counts, the others count in their order, and the
filters on one column count as the last of them in the place of the first (`lastWins`). Three side
conditions stand in the rules: the codes of a value map differ, the names of the value maps of a
text differ, and an inspection has an ident clause.
-/

namespace Crossmap.Mapping

/-! ## Names and columns -/

/-- Items derived one after another. -/
inductive Repeated {α : Type} (item : List Token → α → Prop) : List Token → List α → Prop
  | nil : Repeated item [] []
  | cons {ts rest : List Token} {a : α} {others : List α} (first : item ts a)
      (further : Repeated item rest others) : Repeated item (ts ++ rest) (a :: others)

namespace Repeated

variable {α : Type} {item : List Token → α → Prop} {ts us : List Token} {as bs : List α}

theorem append (first : Repeated item ts as) (second : Repeated item us bs) :
    Repeated item (ts ++ us) (as ++ bs) := by
  induction first with
  | nil => exact second
  | cons one _ ih =>
      rw [List.append_assoc]
      exact .cons one ih

theorem concat {a : α} (derived : Repeated item ts as) (last : item us a) :
    Repeated item (ts ++ us) (as ++ [a]) := by
  have one : Repeated item (us ++ []) [a] := .cons last .nil
  rw [List.append_nil] at one
  exact derived.append one

theorem exists_of_append (both : Repeated item ts (as ++ bs)) :
    ∃ us vs, ts = us ++ vs ∧ Repeated item us as ∧ Repeated item vs bs := by
  induction as generalizing ts with
  | nil => exact ⟨[], ts, rfl, .nil, both⟩
  | cons a as ih =>
      cases both with
      | @cons first _ _ _ one further =>
          obtain ⟨us, vs, rfl, left, right⟩ := ih further
          exact ⟨first ++ us, vs, (List.append_assoc ..).symm, .cons one left, right⟩

end Repeated

/-- The semicolon that may follow a block. -/
inductive DerivesStop : List Token → Prop
  | absent : DerivesStop []
  | present : DerivesStop [.symbol .semicolon]

/-- Dotted names. -/
inductive DerivesPath : List Token → String → Prop
  | last (s : String) : DerivesPath [.name s] s
  | more (s : String) {ts : List Token} {path : String} (further : DerivesPath ts path) :
      DerivesPath (.name s :: .symbol .dot :: ts) (s ++ "." ++ path)

/-- Target paths of columns: markers and dotted names. -/
inductive DerivesTarget : List Token → String → Prop
  | marker (s : String) : DerivesTarget [.marker s] (markerPath s)
  | path {ts : List Token} {path : String} (dotted : DerivesPath ts path) : DerivesTarget ts path

/-- A column and its target path, in both spellings. -/
inductive DerivesBinding : List Token → String → String → Prop
  | columnFirst (column : String) {ts : List Token} {path : String} (target : DerivesTarget ts path) :
      DerivesBinding (.name column :: .symbol .arrow :: ts) column path
  | markerFirst (marker column : String) :
      DerivesBinding [.marker marker, .symbol .arrow, .name column] column (markerPath marker)

/-- Columns, with or without a value map. -/
inductive DerivesColumn : List Token → Column → Prop
  | plain {ts : List Token} {column path : String} (bound : DerivesBinding ts column path) :
      DerivesColumn ts ⟨column, path, none⟩
  | mapped (map : String) {ts : List Token} {column path : String}
      (bound : DerivesBinding ts column path) :
      DerivesColumn (ts ++ [.symbol .comma, .name map]) ⟨column, path, some map⟩

/-- Column clauses, in a declaration or in a block. -/
inductive DerivesColumnClause : List Token → Column → Prop
  | intro {ts : List Token} {c : Column} (column : DerivesColumn ts c) :
      DerivesColumnClause (.name "COLUMN" :: ts ++ [.symbol .semicolon]) c

/-! ## Clauses -/

/-- The arrow of a direction. -/
def Direction.symbol : Direction → Symbol
  | .bidirectional => .bothArrow
  | .inputOnly => .leftArrow
  | .outputOnly => .arrow

/-- The clauses that both kinds of declaration can hold. -/
inductive DerivesCommonClause : List Token → CommonClause → Prop
  | direction (d : Direction) :
      DerivesCommonClause [.name "DIRECTION", .symbol d.symbol, .symbol .semicolon] (.direction d)
  | ident (column : String) :
      DerivesCommonClause [.name "IDENT", .name column, .symbol .semicolon] (.ident column)
  | conversion (c : ConversionCall) :
      DerivesCommonClause
        [.name "CONVERSION", .name c.valueMap, .symbol .leftParen, .name c.sourceColumn,
          .symbol .doubleDash, .name c.targetAlias, .symbol .rightParen, .symbol .semicolon]
        (.conversion c)
  | shortName (a : AliasDeclaration) {ts : List Token} (className : DerivesPath ts a.className) :
      DerivesCommonClause
        (.name "ALIAS" :: .name a.shortName :: .symbol .tilde :: ts ++ [.symbol .semicolon])
        (.shortName a)
  | withBlock (w : WithBlock) {ts stop : List Token}
      (columns : Repeated DerivesColumnClause ts w.columns) (stops : DerivesStop stop) :
      DerivesCommonClause
        (.name "WITH" :: .name w.aliasName :: .symbol .leftBrace :: ts ++ .symbol .rightBrace :: stop)
        (.withBlock w)
  | column {ts : List Token} {c : Column} (clause : DerivesColumnClause ts c) :
      DerivesCommonClause ts (.column c)

/-- The sign that may stand in a filter. -/
inductive DerivesEquals : List Token → Prop
  | absent : DerivesEquals []
  | present : DerivesEquals [.symbol .equals]

/-- The clauses of a data declaration. -/
inductive DerivesDataClause : List Token → DataClause → Prop
  | common {ts : List Token} {c : CommonClause} (clause : DerivesCommonClause ts c) :
      DerivesDataClause ts (.common c)
  | filter (column literal : String) {sign : List Token} (equals : DerivesEquals sign) :
      DerivesDataClause
        (.name "WHERE" :: .name column :: sign ++ [.quoted literal, .symbol .semicolon])
        (.filter column literal)
  | annexe {ts : List Token} {path : String} (className : DerivesPath ts path) :
      DerivesDataClause (.name "ANNEXE" :: ts ++ [.symbol .semicolon]) (.annexe path)
  | annexed (source : String) :
      DerivesDataClause [.name "ANNEXED", .name source, .symbol .semicolon] (.annexed source)
  | join (j : JoinDeclaration) :
      DerivesDataClause
        [.name "JOIN", .name j.joinType, .name j.source, .name "ON", .name j.leftColumn,
          .symbol .equals, .name j.rightColumn, .symbol .semicolon]
        (.join j)
  | nesting (n : NestingDeclaration) :
      DerivesDataClause
        [.name "NESTING", .name n.child, .name "BY", .name n.byColumn, .symbol .semicolon]
        (.nesting n)

/-- The clauses of an inspection. -/
inductive DerivesInspectionClause : List Token → InspectionClause → Prop
  | common {ts : List Token} {c : CommonClause} (clause : DerivesCommonClause ts c) :
      DerivesInspectionClause ts (.common c)
  | parent (column : String) :
      DerivesInspectionClause [.name "PARENT", .name column, .symbol .semicolon] (.parent column)
  | structAttr (column map : String) :
      DerivesInspectionClause [.name "STRUCTATTR", .name column, .name map, .symbol .semicolon]
        (.structAttr column map)
  | classColumn (column map : String) :
      DerivesInspectionClause [.name "CLASSCOL", .name column, .name map, .symbol .semicolon]
        (.classColumn column map)

/-! ## What clauses say together -/

section Clauses

variable {κ α : Type} [DecidableEq κ]

/-- The pairs as a map: every key stands where it comes first and has the value that comes last. -/
def lastWins (pairs : List (κ × α)) : Dict κ α where
  entries := (pairs.map Prod.fst).eraseDups.filterMap fun k =>
    (pairs.reverse.lookup k).map fun a => (k, a)
  nodup_keys := by
    rw [← Dict.entries_ofList_eq_filterMap]
    exact (Dict.ofList pairs).nodup_keys

/-- Inserting pairs one after another makes the map in which the last one wins. -/
theorem ofList_eq_lastWins (pairs : List (κ × α)) : Dict.ofList pairs = lastWins pairs :=
  Dict.ext (Dict.entries_ofList_eq_filterMap pairs)

end Clauses

namespace CommonClause

/-- The direction that a clause gives. -/
@[simp] def direction? : CommonClause → Option Direction
  | .direction d => some d
  | _ => none

/-- The ident column that a clause gives. -/
@[simp] def ident? : CommonClause → Option String
  | .ident x => some x
  | _ => none

/-- The conversion that a clause gives. -/
@[simp] def conversion? : CommonClause → Option ConversionCall
  | .conversion c => some c
  | _ => none

/-- The short name that a clause gives. -/
@[simp] def shortName? : CommonClause → Option AliasDeclaration
  | .shortName a => some a
  | _ => none

/-- The block that a clause gives. -/
@[simp] def withBlock? : CommonClause → Option WithBlock
  | .withBlock w => some w
  | _ => none

/-- The column that a clause gives. -/
@[simp] def column? : CommonClause → Option Column
  | .column c => some c
  | _ => none

end CommonClause

namespace DataClause

/-- The clause as one that both kinds of declaration can hold. -/
@[simp] def common? : DataClause → Option CommonClause
  | .common c => some c
  | _ => none

/-- The column and the literal of a filter. -/
@[simp] def filter? : DataClause → Option (String × String)
  | .filter column literal => some (column, literal)
  | _ => none

/-- The class that a clause annexes. -/
@[simp] def annexe? : DataClause → Option String
  | .annexe path => some path
  | _ => none

/-- The source that a clause annexes. -/
@[simp] def annexed? : DataClause → Option String
  | .annexed source => some source
  | _ => none

/-- The join that a clause gives. -/
@[simp] def join? : DataClause → Option JoinDeclaration
  | .join j => some j
  | _ => none

/-- The nesting that a clause gives. -/
@[simp] def nesting? : DataClause → Option NestingDeclaration
  | .nesting n => some n
  | _ => none

end DataClause

namespace InspectionClause

/-- The clause as one that both kinds of declaration can hold. -/
@[simp] def common? : InspectionClause → Option CommonClause
  | .common c => some c
  | _ => none

/-- The parent column that a clause gives. -/
@[simp] def parent? : InspectionClause → Option String
  | .parent column => some column
  | _ => none

/-- The column of the structural role and its value map. -/
@[simp] def structAttr? : InspectionClause → Option (String × String)
  | .structAttr column map => some (column, map)
  | _ => none

/-- The class column and its value map. -/
@[simp] def classColumn? : InspectionClause → Option (String × String)
  | .classColumn column map => some (column, map)
  | _ => none

end InspectionClause

/-- The last value that clauses give of one kind. -/
def lastGiven {γ α : Type} (given : γ → Option α) (clauses : List γ) : Option α :=
  (clauses.filterMap given).getLast?

/-- The data declaration with a header and clauses. -/
def Header.data (h : Header) (clauses : List DataClause) : DataDeclaration :=
  let common := clauses.filterMap DataClause.common?
  { name := h.name
    object := h.object
    className := h.className
    direction := (lastGiven CommonClause.direction? common).getD .bidirectional
    identColumn := lastGiven CommonClause.ident? common
    filter := lastWins (clauses.filterMap DataClause.filter?)
    conversions := common.filterMap CommonClause.conversion?
    aliases := common.filterMap CommonClause.shortName?
    withBlocks := common.filterMap CommonClause.withBlock?
    annexeTargets := clauses.filterMap DataClause.annexe?
    annexedSources := clauses.filterMap DataClause.annexed?
    joins := clauses.filterMap DataClause.join?
    nestings := clauses.filterMap DataClause.nesting?
    columns := common.filterMap CommonClause.column? }

/-- The inspection with a header and clauses. -/
def Header.inspection (h : Header) (clauses : List InspectionClause) : Inspection :=
  let common := clauses.filterMap InspectionClause.common?
  let structAttr := lastGiven InspectionClause.structAttr? clauses
  let classColumn := lastGiven InspectionClause.classColumn? clauses
  { name := h.name
    object := h.object
    className := h.className
    direction := (lastGiven CommonClause.direction? common).getD .bidirectional
    identColumn := lastGiven CommonClause.ident? common
    parentColumn := lastGiven InspectionClause.parent? clauses
    structAttrColumn := structAttr.map Prod.fst
    structAttrMap := structAttr.map Prod.snd
    classColumn := classColumn.map Prod.fst
    classMap := classColumn.map Prod.snd
    conversions := common.filterMap CommonClause.conversion?
    aliases := common.filterMap CommonClause.shortName?
    withBlocks := common.filterMap CommonClause.withBlock?
    columns := common.filterMap CommonClause.column? }

/-- Some clause gives a value exactly if there is a last value given. -/
theorem isSome_lastGiven_iff {γ α : Type} {given : γ → Option α} {clauses : List γ} :
    (lastGiven given clauses).isSome = true ↔ ∃ c ∈ clauses, (given c).isSome = true := by
  rw [lastGiven, List.getLast?_isSome, ne_eq, List.filterMap_eq_nil_iff]
  simp [Option.isSome_iff_ne_none]

theorem Header.isSome_identColumn_iff {h : Header} {clauses : List InspectionClause} :
    (h.inspection clauses).identColumn.isSome = true ↔
      ∃ column, .common (.ident column) ∈ clauses := by
  have given : (h.inspection clauses).identColumn =
      lastGiven CommonClause.ident? (clauses.filterMap InspectionClause.common?) := rfl
  rw [given, isSome_lastGiven_iff]
  constructor
  · rintro ⟨c, member, isIdent⟩
    obtain ⟨clause, member, isCommon⟩ := List.mem_filterMap.mp member
    cases c <;> cases isIdent
    cases clause <;> cases isCommon
    exact ⟨_, member⟩
  · rintro ⟨column, member⟩
    exact ⟨.ident column, List.mem_filterMap.mpr ⟨_, member, rfl⟩, rfl⟩

/-! ## Statements and texts -/

/-- Headers of declarations, up to the opening brace. -/
inductive DerivesHeader : List Token → Header → Prop
  | intro (h : Header) {ts : List Token} (className : DerivesPath ts h.className) :
      DerivesHeader
        (.name h.name :: .name "FROM" :: .name h.object :: .name "CLASS" :: ts ++
          [.symbol .leftBrace])
        h

/-- Entries of value maps. -/
inductive DerivesEntry : List Token → Code × String → Prop
  | intro (code : Code) {ts : List Token} {path : String} (target : DerivesPath ts path) :
      DerivesEntry (.code code :: .symbol .arrow :: ts ++ [.symbol .semicolon]) (code, path)

/-- What a statement adds to a model. -/
inductive Statement where
  | valueMap (v : ValueMap)
  | data (d : DataDeclaration)
  | inspection (i : Inspection)

/-- Statements. -/
inductive DerivesStatement : List Token → Statement → Prop
  | valueMap (name : String) {ts stop : List Token} {entries : List (Code × String)}
      (derived : Repeated DerivesEntry ts entries) (nodup : (entries.map Prod.fst).Nodup)
      (stops : DerivesStop stop) :
      DerivesStatement
        (.name "VALUEMAP" :: .name name :: .symbol .leftBrace :: ts ++ .symbol .rightBrace :: stop)
        (.valueMap ⟨name, ⟨entries, nodup⟩⟩)
  | data {head ts stop : List Token} {h : Header} {clauses : List DataClause}
      (headed : DerivesHeader head h) (derived : Repeated DerivesDataClause ts clauses)
      (stops : DerivesStop stop) :
      DerivesStatement (.name "DATA" :: head ++ ts ++ .symbol .rightBrace :: stop)
        (.data (h.data clauses))
  | inspection {head ts stop : List Token} {h : Header} {clauses : List InspectionClause}
      (headed : DerivesHeader head h) (derived : Repeated DerivesInspectionClause ts clauses)
      (named : ∃ column, .common (.ident column) ∈ clauses) (stops : DerivesStop stop) :
      DerivesStatement (.name "INSPECTION" :: head ++ ts ++ .symbol .rightBrace :: stop)
        (.inspection (h.inspection clauses))

namespace Statement

/-- The value map that a statement adds. -/
@[simp] def valueMap? : Statement → Option ValueMap
  | .valueMap v => some v
  | _ => none

/-- The data declaration that a statement adds. -/
@[simp] def data? : Statement → Option DataDeclaration
  | .data d => some d
  | _ => none

/-- The inspection that a statement adds. -/
@[simp] def inspection? : Statement → Option Inspection
  | .inspection i => some i
  | _ => none

end Statement

/-- The value maps of statements under their names. -/
def namedMaps (statements : List Statement) : List (String × ValueMap) :=
  (statements.filterMap Statement.valueMap?).map fun v => (v.name, v)

/-- The model of statements whose value maps have distinct names. -/
def Model.ofStatements (name : String) (statements : List Statement)
    (nodup : ((namedMaps statements).map Prod.fst).Nodup) : Model where
  name := name
  valueMaps := ⟨namedMaps statements, nodup⟩
  data := statements.filterMap Statement.data?
  inspections := statements.filterMap Statement.inspection?

/-- The name of a model: given at the head of its text, or else the name of the text. -/
inductive DerivesName (source : String) : List Token → String → Prop
  | absent : DerivesName source [] source
  | present (name : String) :
      DerivesName source [.name "LM", .name name, .symbol .semicolon] name

/-- **The grammar of mapping texts.** Tokens derive a model in a text of a given name. -/
inductive Derives (source : String) : List Token → Model → Prop
  | intro {head body : List Token} {name : String} {statements : List Statement}
      (headed : DerivesName source head name) (derived : Repeated DerivesStatement body statements)
      (nodup : ((namedMaps statements).map Prod.fst).Nodup) :
      Derives source (head ++ body) (.ofStatements name statements nodup)

end Crossmap.Mapping
