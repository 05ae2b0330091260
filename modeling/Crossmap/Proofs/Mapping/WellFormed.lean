import Crossmap.Proofs.Mapping.Derivation
import Crossmap.Proofs.Mapping.Spelling
import Crossmap.Proofs.Text.Split

/-! # Models that a mapping text can declare

What holds of every model read from a text: its names are names, its paths are dotted names or
markers, its value maps stand under their own names, and what the grammar gives together is there
together (`Model.BodyWellFormed`). The name of the model is left out, for a text without a name of
its own takes the name under which it is read. Main result: the grammar derives nothing else from
tokens that can be spelled (`bodyWellFormed_of_derives`).
-/

namespace Crossmap

namespace Mapping

/-! ## Names and paths -/

/-- Whether a text is a name. -/
def IsName (s : String) : Prop := isName s.toList = true

instance : DecidablePred IsName := fun s => inferInstanceAs (Decidable (isName s.toList = true))

/-- A name token is lexical exactly if it holds a name. -/
@[simp] theorem isLexical_name {s : String} : (Token.name s).IsLexical ↔ IsName s := Iff.rfl

@[simp] theorem isLexical_code (c : Code) : (Token.code c).IsLexical := trivial

@[simp] theorem isLexical_quoted (s : String) : (Token.quoted s).IsLexical := trivial

@[simp] theorem isLexical_symbol (s : Symbol) : (Token.symbol s).IsLexical := trivial

/-- Whether a text is a dotted name. -/
def IsPath (path : String) : Prop := ∀ s ∈ Text.segments path, IsName s

instance : DecidablePred IsPath :=
  fun path => inferInstanceAs (Decidable (∀ s ∈ Text.segments path, IsName s))

/-- Whether a text is a target path: a dotted name or a marker. -/
def IsTarget (path : String) : Prop := IsPath path ∨ ∃ s, IsName s ∧ path = markerPath s

/-- Names that stand together or not at all. -/
def NamedTogether (first second : Option String) : Prop :=
  first = none ∧ second = none ∨
    ∃ s s', first = some s ∧ second = some s' ∧ IsName s ∧ IsName s'

/-- There is no dot in a name. -/
theorem dot_notMem_of_isName {s : String} (lexical : IsName s) : '.' ∉ s.toList := by
  intro member
  exact absurd (isNamePart_of_mem_isName lexical '.' member) (by decide)

/-- A name is a path of one segment. -/
theorem isPath_of_isName {s : String} (lexical : IsName s) : IsPath s := by
  intro segment member
  rw [Text.segments, Text.splitAt_of_notMem (dot_notMem_of_isName lexical), List.map_singleton,
    List.mem_singleton, String.ofList_toList] at member
  exact member ▸ lexical

/-- A name in front of a path makes a path with it. -/
theorem isPath_join {s path : String} (lexical : IsName s) (dotted : IsPath path) :
    IsPath (s ++ "." ++ path) := by
  have chars : (s ++ "." ++ path).toList = s.toList ++ '.' :: path.toList := by
    simp
  intro segment member
  rw [Text.segments, chars, Text.splitAt_append_cons (dot_notMem_of_isName lexical), List.map_cons,
    String.ofList_toList] at member
  rcases List.mem_cons.mp member with rfl | member
  · exact lexical
  · exact dotted segment member

/-! ## Declarations -/

/-- A column between names and target paths. -/
structure Column.WellFormed (c : Column) : Prop where
  sourceColumn : IsName c.sourceColumn
  targetPath : IsTarget c.targetPath
  valueMap : ∀ map ∈ c.valueMap, IsName map

/-- A conversion between names. -/
structure ConversionCall.WellFormed (c : ConversionCall) : Prop where
  valueMap : IsName c.valueMap
  sourceColumn : IsName c.sourceColumn
  targetAlias : IsName c.targetAlias

/-- A name for a dotted name. -/
structure AliasDeclaration.WellFormed (a : AliasDeclaration) : Prop where
  shortName : IsName a.shortName
  className : IsPath a.className

/-- A name for well-formed columns. -/
structure WithBlock.WellFormed (w : WithBlock) : Prop where
  aliasName : IsName w.aliasName
  columns : ∀ c ∈ w.columns, c.WellFormed

/-- A join between names. -/
structure JoinDeclaration.WellFormed (j : JoinDeclaration) : Prop where
  joinType : IsName j.joinType
  source : IsName j.source
  leftColumn : IsName j.leftColumn
  rightColumn : IsName j.rightColumn

/-- A nesting between names. -/
structure NestingDeclaration.WellFormed (n : NestingDeclaration) : Prop where
  child : IsName n.child
  byColumn : IsName n.byColumn

/-- A data declaration that a text can make. Its literals are any texts. -/
structure DataDeclaration.WellFormed (d : DataDeclaration) : Prop where
  name : IsName d.name
  object : IsName d.object
  className : IsPath d.className
  identColumn : ∀ column ∈ d.identColumn, IsName column
  filter : ∀ e ∈ d.filter.entries, IsName e.1
  conversions : ∀ c ∈ d.conversions, c.WellFormed
  aliases : ∀ a ∈ d.aliases, a.WellFormed
  withBlocks : ∀ w ∈ d.withBlocks, w.WellFormed
  annexeTargets : ∀ path ∈ d.annexeTargets, IsPath path
  annexedSources : ∀ source ∈ d.annexedSources, IsName source
  joins : ∀ j ∈ d.joins, j.WellFormed
  nestings : ∀ n ∈ d.nestings, n.WellFormed
  columns : ∀ c ∈ d.columns, c.WellFormed

/-- An inspection that a text can make: it has an ident column, and a role or class column exactly
with its value map. -/
structure Inspection.WellFormed (i : Inspection) : Prop where
  name : IsName i.name
  object : IsName i.object
  className : IsPath i.className
  identColumn : ∃ column, i.identColumn = some column ∧ IsName column
  parentColumn : ∀ column ∈ i.parentColumn, IsName column
  structAttr : NamedTogether i.structAttrColumn i.structAttrMap
  classColumn : NamedTogether i.classColumn i.classMap
  conversions : ∀ c ∈ i.conversions, c.WellFormed
  aliases : ∀ a ∈ i.aliases, a.WellFormed
  withBlocks : ∀ w ∈ i.withBlocks, w.WellFormed
  columns : ∀ c ∈ i.columns, c.WellFormed

/-- A value map from any codes to dotted names. -/
structure ValueMap.WellFormed (v : ValueMap) : Prop where
  name : IsName v.name
  paths : ∀ e ∈ v.entries.entries, IsPath e.2

/-- **Models that a text can declare**, whatever they are named. -/
structure Model.BodyWellFormed (m : Model) : Prop where
  keys : ∀ e ∈ m.valueMaps.entries, e.1 = e.2.name
  valueMaps : ∀ e ∈ m.valueMaps.entries, e.2.WellFormed
  data : ∀ d ∈ m.data, d.WellFormed
  inspections : ∀ i ∈ m.inspections, i.WellFormed

/-! ## Clauses -/

/-- A clause that holds what is well-formed. -/
def CommonClause.WellFormed : CommonClause → Prop
  | .direction _ => True
  | .ident x => IsName x
  | .conversion c => c.WellFormed
  | .shortName a => a.WellFormed
  | .withBlock w => w.WellFormed
  | .column c => c.WellFormed

/-- A clause of a data declaration that holds what is well-formed. -/
def DataClause.WellFormed : DataClause → Prop
  | .common c => c.WellFormed
  | .filter column _ => IsName column
  | .annexe path => IsPath path
  | .annexed source => IsName source
  | .join j => j.WellFormed
  | .nesting n => n.WellFormed

/-- A clause of an inspection that holds what is well-formed. -/
def InspectionClause.WellFormed : InspectionClause → Prop
  | .common c => c.WellFormed
  | .parent column => IsName column
  | .structAttr column map => IsName column ∧ IsName map
  | .classColumn column map => IsName column ∧ IsName map

/-- A header of names. -/
structure Header.WellFormed (h : Header) : Prop where
  name : IsName h.name
  object : IsName h.object
  className : IsPath h.className

/-- What all clauses satisfy holds of what they give. -/
theorem forall_mem_filterMap {γ α : Type} {given : γ → Option α} {P : γ → Prop} {Q : α → Prop}
    {clauses : List γ} (all : ∀ c ∈ clauses, P c) (gives : ∀ c a, given c = some a → P c → Q a) :
    ∀ a ∈ clauses.filterMap given, Q a := by
  intro a member
  obtain ⟨c, member, found⟩ := List.mem_filterMap.mp member
  exact gives c a found (all c member)

/-- What holds of clauses holds of the last thing they give of a kind. -/
theorem forall_mem_lastGiven {γ α : Type} {given : γ → Option α} {P : γ → Prop} {Q : α → Prop}
    {clauses : List γ} (all : ∀ c ∈ clauses, P c) (gives : ∀ c a, given c = some a → P c → Q a) :
    ∀ a ∈ lastGiven given clauses, Q a :=
  fun a member => forall_mem_filterMap all gives a (List.mem_of_getLast? member)

/-- Every key of a map in which the last pair wins is the key of a pair. -/
theorem exists_mem_of_mem_lastWins {κ α : Type} [DecidableEq κ] {pairs : List (κ × α)} {e : κ × α}
    (member : e ∈ (lastWins pairs).entries) : ∃ e' ∈ pairs, e'.1 = e.1 := by
  obtain ⟨k, inKeys, found⟩ := List.mem_filterMap.mp member
  obtain ⟨a, -, rfl⟩ := Option.map_eq_some_iff.mp found
  exact List.mem_map.mp (List.mem_eraseDups.mp inKeys)

/-- Well-formed clauses give nothing but names, and what is well-formed. -/
theorem CommonClause.forall_mem_given {clauses : List CommonClause}
    (all : ∀ c ∈ clauses, c.WellFormed) :
    (∀ column ∈ lastGiven ident? clauses, IsName column) ∧
      (∀ c ∈ clauses.filterMap conversion?, c.WellFormed) ∧
      (∀ a ∈ clauses.filterMap shortName?, a.WellFormed) ∧
      (∀ w ∈ clauses.filterMap withBlock?, w.WellFormed) ∧
      ∀ c ∈ clauses.filterMap column?, c.WellFormed := by
  refine ⟨forall_mem_lastGiven all ?_, forall_mem_filterMap all ?_, forall_mem_filterMap all ?_,
    forall_mem_filterMap all ?_, forall_mem_filterMap all ?_⟩
  all_goals
    intro c a found wellFormed
    cases c <;> cases found
    exact wellFormed

/-- A well-formed header and well-formed clauses make a well-formed data declaration. -/
theorem Header.data_wellFormed {h : Header} {clauses : List DataClause} (head : h.WellFormed)
    (all : ∀ c ∈ clauses, c.WellFormed) : (h.data clauses).WellFormed := by
  have common : ∀ c ∈ clauses.filterMap DataClause.common?, c.WellFormed :=
    forall_mem_filterMap all fun c a found wellFormed => by
      cases c <;> cases found
      exact wellFormed
  obtain ⟨identColumn, conversions, aliases, withBlocks, columns⟩ :=
    CommonClause.forall_mem_given common
  have filter : ∀ e ∈ clauses.filterMap DataClause.filter?, IsName e.1 :=
    forall_mem_filterMap all fun c a found wellFormed => by
      cases c <;> cases found
      exact wellFormed
  refine ⟨head.name, head.object, head.className, identColumn, ?_, conversions, aliases, withBlocks,
    forall_mem_filterMap all ?_, forall_mem_filterMap all ?_, forall_mem_filterMap all ?_,
    forall_mem_filterMap all ?_, columns⟩
  · intro e member
    obtain ⟨e', member, same⟩ := exists_mem_of_mem_lastWins member
    exact same ▸ filter e' member
  all_goals
    intro c a found wellFormed
    cases c <;> cases found
    exact wellFormed

/-- What clauses give together is there together. -/
theorem namedTogether_lastGiven {γ : Type} {given : γ → Option (String × String)} {clauses : List γ}
    (all : ∀ e ∈ lastGiven given clauses, IsName e.1 ∧ IsName e.2) :
    NamedTogether ((lastGiven given clauses).map Prod.fst)
      ((lastGiven given clauses).map Prod.snd) := by
  cases last : lastGiven given clauses with
  | none => exact .inl ⟨rfl, rfl⟩
  | some e => exact .inr ⟨e.1, e.2, rfl, rfl, all e last⟩

/-- Well-formed clauses, one of which names the ident column, make a well-formed inspection. -/
theorem Header.inspection_wellFormed {h : Header} {clauses : List InspectionClause}
    (head : h.WellFormed) (all : ∀ c ∈ clauses, c.WellFormed)
    (named : ∃ column, .common (.ident column) ∈ clauses) : (h.inspection clauses).WellFormed := by
  have common : ∀ c ∈ clauses.filterMap InspectionClause.common?, c.WellFormed :=
    forall_mem_filterMap all fun c a found wellFormed => by
      cases c <;> cases found
      exact wellFormed
  obtain ⟨identColumn, conversions, aliases, withBlocks, columns⟩ :=
    CommonClause.forall_mem_given common
  refine ⟨head.name, head.object, head.className, ?_, forall_mem_lastGiven all ?_,
    namedTogether_lastGiven (forall_mem_lastGiven all ?_),
    namedTogether_lastGiven (forall_mem_lastGiven all ?_), conversions, aliases, withBlocks,
    columns⟩
  · obtain ⟨column, found⟩ := Option.isSome_iff_exists.mp (Header.isSome_identColumn_iff.mpr named)
    exact ⟨column, found, identColumn column found⟩
  all_goals
    intro c a found wellFormed
    cases c <;> cases found
    exact wellFormed

/-! ## What lexical tokens derive -/

section Derived

variable {ts : List Token}

/-- What is repeated in lexical tokens has every property that lexical tokens give an item. -/
theorem forall_mem_of_repeated {α : Type} {item : List Token → α → Prop} {P : α → Prop}
    {items : List α} (derived : Repeated item ts items) (lexical : Lexical ts)
    (each : ∀ ts a, item ts a → Lexical ts → P a) : ∀ a ∈ items, P a := by
  induction derived with
  | nil => exact nofun
  | cons first further ih =>
      obtain ⟨front, back⟩ := lexical_append.mp lexical
      exact List.forall_mem_cons.mpr ⟨each _ _ first front, ih back⟩

/-- What is derived as a path is one. -/
theorem isPath_of_derivesPath {path : String} (derived : DerivesPath ts path)
    (lexical : Lexical ts) : IsPath path := by
  induction derived with
  | last s => exact isPath_of_isName (lexical_cons.mp lexical).1
  | more s further ih =>
      simp only [lexical_cons] at lexical
      exact isPath_join lexical.1 (ih lexical.2.2)

/-- What is derived as a target path is one. -/
theorem isTarget_of_derivesTarget {path : String} (derived : DerivesTarget ts path)
    (lexical : Lexical ts) : IsTarget path := by
  cases derived with
  | marker s => exact .inr ⟨s, (lexical_cons.mp lexical).1, rfl⟩
  | path dotted => exact .inl (isPath_of_derivesPath dotted lexical)

/-- A column that is bound in either spelling has a name, and its path is a target path. -/
theorem named_of_derivesBinding {column path : String} (derived : DerivesBinding ts column path)
    (lexical : Lexical ts) : IsName column ∧ IsTarget path := by
  cases derived with
  | columnFirst column target =>
      simp only [lexical_cons] at lexical
      exact ⟨lexical.1, isTarget_of_derivesTarget target lexical.2.2⟩
  | markerFirst marker column =>
      simp only [lexical_cons] at lexical
      exact ⟨lexical.2.2.1, .inr ⟨marker, lexical.1, rfl⟩⟩

/-- A column that is derived is well-formed. -/
theorem wellFormed_of_derivesColumn {c : Column} (derived : DerivesColumn ts c)
    (lexical : Lexical ts) : c.WellFormed := by
  cases derived with
  | plain bound =>
      obtain ⟨column, path⟩ := named_of_derivesBinding bound lexical
      exact ⟨column, path, nofun⟩
  | mapped map bound =>
      simp only [lexical_append, lexical_cons] at lexical
      obtain ⟨column, path⟩ := named_of_derivesBinding bound lexical.1
      exact ⟨column, path, fun _ same => Option.some.inj same ▸ lexical.2.2.1⟩

theorem wellFormed_of_derivesColumnClause {c : Column} (derived : DerivesColumnClause ts c)
    (lexical : Lexical ts) : c.WellFormed := by
  obtain ⟨column⟩ := derived
  simp only [lexical_append, lexical_cons] at lexical
  exact wellFormed_of_derivesColumn column lexical.1.2

/-- A clause of both kinds of declaration that is derived is well-formed. -/
theorem wellFormed_of_derivesCommonClause {c : CommonClause} (derived : DerivesCommonClause ts c)
    (lexical : Lexical ts) : c.WellFormed := by
  cases derived with
  | direction => trivial
  | ident column =>
      simp only [lexical_cons] at lexical
      exact lexical.2.1
  | conversion c =>
      simp only [lexical_cons] at lexical
      obtain ⟨-, map, -, column, -, target, -⟩ := lexical
      exact ⟨map, column, target⟩
  | shortName a className =>
      simp only [lexical_append, lexical_cons] at lexical
      obtain ⟨⟨-, short, -, tokens⟩, -⟩ := lexical
      exact ⟨short, isPath_of_derivesPath className tokens⟩
  | withBlock w columns =>
      simp only [lexical_append, lexical_cons] at lexical
      obtain ⟨⟨-, aliasName, -, tokens⟩, -⟩ := lexical
      exact ⟨aliasName,
        forall_mem_of_repeated columns tokens fun _ _ => wellFormed_of_derivesColumnClause⟩
  | column clause => exact wellFormed_of_derivesColumnClause clause lexical

/-- A clause of a data declaration that is derived is well-formed. -/
theorem wellFormed_of_derivesDataClause {c : DataClause} (derived : DerivesDataClause ts c)
    (lexical : Lexical ts) : c.WellFormed := by
  cases derived with
  | common clause => exact wellFormed_of_derivesCommonClause clause lexical
  | filter column =>
      simp only [lexical_append, lexical_cons] at lexical
      exact lexical.1.2.1
  | annexe className =>
      simp only [lexical_append, lexical_cons] at lexical
      exact isPath_of_derivesPath className lexical.1.2
  | annexed source =>
      simp only [lexical_cons] at lexical
      exact lexical.2.1
  | join j =>
      simp only [lexical_cons] at lexical
      obtain ⟨-, kind, source, -, left, -, right, -⟩ := lexical
      exact ⟨kind, source, left, right⟩
  | nesting n =>
      simp only [lexical_cons] at lexical
      obtain ⟨-, child, -, column, -⟩ := lexical
      exact ⟨child, column⟩

/-- A clause of an inspection that is derived is well-formed. -/
theorem wellFormed_of_derivesInspectionClause {c : InspectionClause}
    (derived : DerivesInspectionClause ts c) (lexical : Lexical ts) : c.WellFormed := by
  cases derived with
  | common clause => exact wellFormed_of_derivesCommonClause clause lexical
  | parent column =>
      simp only [lexical_cons] at lexical
      exact lexical.2.1
  | structAttr column map =>
      simp only [lexical_cons] at lexical
      exact ⟨lexical.2.1, lexical.2.2.1⟩
  | classColumn column map =>
      simp only [lexical_cons] at lexical
      exact ⟨lexical.2.1, lexical.2.2.1⟩

/-- A header that is derived is well-formed. -/
theorem wellFormed_of_derivesHeader {h : Header} (derived : DerivesHeader ts h)
    (lexical : Lexical ts) : h.WellFormed := by
  obtain ⟨_, className⟩ := derived
  simp only [lexical_append, lexical_cons] at lexical
  obtain ⟨⟨name, -, object, -, tokens⟩, -⟩ := lexical
  exact ⟨name, object, isPath_of_derivesPath className tokens⟩

/-- The path of an entry that is derived is a path. -/
theorem isPath_of_derivesEntry {e : Code × String} (derived : DerivesEntry ts e)
    (lexical : Lexical ts) : IsPath e.2 := by
  obtain ⟨_, target⟩ := derived
  simp only [lexical_append, lexical_cons] at lexical
  exact isPath_of_derivesPath target lexical.1.2.2

/-- A statement that adds what is well-formed. -/
def Statement.WellFormed : Statement → Prop
  | .valueMap v => v.WellFormed
  | .data d => d.WellFormed
  | .inspection i => i.WellFormed

/-- A statement that is derived is well-formed. -/
theorem wellFormed_of_derivesStatement {statement : Statement}
    (derived : DerivesStatement ts statement) (lexical : Lexical ts) : statement.WellFormed := by
  cases derived with
  | valueMap name entries =>
      simp only [lexical_append, lexical_cons] at lexical
      obtain ⟨⟨-, lexicalName, -, tokens⟩, -⟩ := lexical
      exact ⟨lexicalName, forall_mem_of_repeated entries tokens fun _ _ => isPath_of_derivesEntry⟩
  | data headed clauses =>
      simp only [lexical_append, lexical_cons] at lexical
      obtain ⟨⟨⟨-, head⟩, tokens⟩, -⟩ := lexical
      exact Header.data_wellFormed (wellFormed_of_derivesHeader headed head)
        (forall_mem_of_repeated clauses tokens fun _ _ => wellFormed_of_derivesDataClause)
  | inspection headed clauses named =>
      simp only [lexical_append, lexical_cons] at lexical
      obtain ⟨⟨⟨-, head⟩, tokens⟩, -⟩ := lexical
      exact Header.inspection_wellFormed (wellFormed_of_derivesHeader headed head)
        (forall_mem_of_repeated clauses tokens fun _ _ => wellFormed_of_derivesInspectionClause)
        named

/-- **Lexical tokens derive well-formed models.** -/
theorem bodyWellFormed_of_derives {source : String} {m : Model} (derived : Derives source ts m)
    (lexical : Lexical ts) : m.BodyWellFormed := by
  obtain @⟨_, _, _, statements, headed, repeated, nodup⟩ := derived
  have wellFormed := forall_mem_of_repeated repeated (lexical_append.mp lexical).2
    fun _ _ => wellFormed_of_derivesStatement
  have valueMaps : ∀ v ∈ statements.filterMap Statement.valueMap?, v.WellFormed :=
    forall_mem_filterMap wellFormed fun statement v found wellFormed => by
      cases statement <;> cases found
      exact wellFormed
  refine ⟨?_, ?_, forall_mem_filterMap wellFormed ?_, forall_mem_filterMap wellFormed ?_⟩
  · intro e member
    obtain ⟨v, -, rfl⟩ := List.mem_map.mp member
    rfl
  · intro e member
    obtain ⟨v, declared, rfl⟩ := List.mem_map.mp member
    exact valueMaps v declared
  all_goals
    intro statement declaration found wellFormed
    cases statement <;> cases found
    exact wellFormed

end Derived

end Mapping

end Crossmap
