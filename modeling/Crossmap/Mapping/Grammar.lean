import Crossmap.Mapping.Lexeme
import Crossmap.Mapping.Model
import Crossmap.Mapping.TokenReader

/-!
# The grammar of mapping texts

```text
model             := [ "LM" name ";" ] statement*
statement         := "VALUEMAP" name "{" ( code "->" path ";" )* "}" [ ";" ]
                   | "DATA" header "{" data-clause* "}" [ ";" ]
                   | "INSPECTION" header "{" inspection-clause* "}" [ ";" ]
header            := name "FROM" name "CLASS" path
common-clause     := "DIRECTION" ( "<->" | "<-" | "->" ) ";"
                   | "IDENT" name ";"
                   | "CONVERSION" name "(" name "--" name ")" ";"
                   | "ALIAS" name "~" path ";"
                   | "WITH" name "{" ( "COLUMN" column ";" )* "}" [ ";" ]
                   | "COLUMN" column ";"
data-clause       := common-clause
                   | "WHERE" name [ "=" ] quoted ";"
                   | "ANNEXE" path ";"
                   | "ANNEXED" name ";"
                   | "JOIN" name name "ON" name "=" name ";"
                   | "NESTING" name "BY" name ";"
inspection-clause := common-clause
                   | "PARENT" name ";"
                   | "STRUCTATTR" name name ";"
                   | "CLASSCOL" name name ";"
column            := ( name "->" ( marker | path ) | marker "->" name ) [ "," name ]
path              := name ( "." name )*
```

A clause that a declaration can hold once only is overruled by a later one of its kind; filters on
one column likewise, where the column keeps its first place. An inspection has to name its ident
column, the codes of a value map differ, and so do the names of value maps.
-/

namespace Crossmap.Mapping

open TokenReader

/-! ## Clauses -/

/-- A clause that both kinds of declaration can hold. -/
inductive CommonClause where
  | direction (d : Direction)
  | ident (column : String)
  | conversion (c : ConversionCall)
  | shortName (a : AliasDeclaration)
  | withBlock (w : WithBlock)
  | column (c : Column)
  deriving DecidableEq, Inhabited

/-- A clause of a data declaration. -/
inductive DataClause where
  | common (c : CommonClause)
  | filter (column literal : String)
  | annexe (className : String)
  | annexed (source : String)
  | join (j : JoinDeclaration)
  | nesting (n : NestingDeclaration)
  deriving DecidableEq, Inhabited

/-- A clause of an inspection. -/
inductive InspectionClause where
  | common (c : CommonClause)
  | parent (column : String)
  | structAttr (column map : String)
  | classColumn (column map : String)
  deriving DecidableEq, Inhabited

/-- A clause and the semicolon after it. -/
def ended {α : Type} (p : TokenReader α) : TokenReader α := do
  let a ← p
  symbol .semicolon
  return a

/-- The direction that an arrow stands for. -/
def directionOf? : Token → Option Direction
  | .symbol .bothArrow => some .bidirectional
  | .symbol .leftArrow => some .inputOnly
  | .symbol .arrow => some .outputOnly
  | _ => none

/-- The arrow of a direction. -/
def directionArrow : TokenReader Direction :=
  next [.symbol .bothArrow, .symbol .leftArrow, .symbol .arrow] directionOf?

/-- A name or a marker, where both can stand. -/
inductive NameOrMarker where
  | name (s : String)
  | marker (s : String)
  deriving DecidableEq, Inhabited

/-- The name or marker that a token is. -/
def nameOrMarker? : Token → Option NameOrMarker
  | .name s => some (.name s)
  | .marker s => some (.marker s)
  | _ => none

/-- The target path of a column: a marker or a dotted name. -/
def targetPath : TokenReader String := do
  match ← next [.name "target path"] nameOrMarker? with
  | .marker s => return markerPath s
  | .name s => furtherSegments "target path" s

/-- A column and its path, the marker standing on either side of the arrow. -/
def binding : TokenReader Column := do
  match ← next [.name "column name", .marker] nameOrMarker? with
  | .marker s =>
    symbol .arrow
    let column ← name "target column"
    return ⟨column, markerPath s, none⟩
  | .name s =>
    symbol .arrow
    let path ← targetPath
    return ⟨s, path, none⟩

/-- A column with its path and its value map. -/
def boundColumn : TokenReader Column := do
  let bound ← binding
  if ← skipIf (.symbol .comma) then
    let map ← name "VALUEMAP name"
    return { bound with valueMap := some map }
  else return bound

/-- A conversion. -/
def conversionCall : TokenReader ConversionCall := do
  let map ← name "VALUEMAP name"
  symbol .leftParen
  let sourceColumn ← name "source column"
  symbol .doubleDash
  let targetAlias ← name "target alias"
  symbol .rightParen
  return ⟨map, sourceColumn, targetAlias⟩

/-- A short name of a class. -/
def aliasDeclaration : TokenReader AliasDeclaration := do
  let short ← name "alias name"
  symbol .tilde
  let className ← path "class name"
  return ⟨short, className⟩

/-- The closing brace of a block whose entries begin with certain tokens. -/
def closingBrace (entries : List Expected) : TokenReader Unit :=
  next (entries ++ [.symbol .rightBrace]) fun t => if t = .symbol .rightBrace then some () else none

/-- A further column of a block, read after its keyword. -/
def blockColumn? (columns : List Column) (t : Token) : Option (TokenReader (List Column)) :=
  if t = .name "COLUMN" then some ((columns ++ [·]) <$> ended boundColumn) else none

/-- Columns under an alias. -/
def columnBlock : TokenReader WithBlock := do
  let aliasName ← name "alias name"
  symbol .leftBrace
  let columns ← many blockColumn? []
  closingBrace [.keyword "COLUMN"]
  let _ ← skipIf (.symbol .semicolon)
  return ⟨aliasName, columns⟩

/-- A filter: a column and its literal. -/
def filterClause : TokenReader DataClause := do
  let column ← name "filter column"
  let _ ← skipIf (.symbol .equals)
  let literal ← next [.quoted] fun
    | .quoted s => some s
    | _ => none
  return .filter column literal

/-- A join. -/
def joinDeclaration : TokenReader JoinDeclaration := do
  let joinType ← name "join type"
  let source ← name "join source"
  keyword "ON"
  let leftColumn ← name "join column"
  symbol .equals
  let rightColumn ← name "join column"
  return ⟨joinType, source, leftColumn, rightColumn⟩

/-- A nesting. -/
def nestingDeclaration : TokenReader NestingDeclaration := do
  let child ← name "nested object"
  keyword "BY"
  let byColumn ← name "nesting column"
  return ⟨child, byColumn⟩

/-- The structural role: a column and its value map. -/
def structAttrClause : TokenReader InspectionClause := do
  let column ← name "structure attribute column"
  let map ← name "VALUEMAP name"
  return .structAttr column map

/-- The class column and its value map. -/
def classColumnClause : TokenReader InspectionClause := do
  let column ← name "class column"
  let map ← name "VALUEMAP name"
  return .classColumn column map

/-- What follows the keyword of a clause that both kinds of declaration can hold. -/
def CommonClause.after? : String → Option (TokenReader CommonClause)
  | "DIRECTION" => some (ended (.direction <$> directionArrow))
  | "IDENT" => some (ended (.ident <$> name "ident column"))
  | "CONVERSION" => some (ended (.conversion <$> conversionCall))
  | "ALIAS" => some (ended (.shortName <$> aliasDeclaration))
  | "WITH" => some (.withBlock <$> columnBlock)
  | "COLUMN" => some (ended (.column <$> boundColumn))
  | _ => none

/-- What follows the keyword of a clause of a data declaration. -/
def DataClause.after? : String → Option (TokenReader DataClause)
  | "WHERE" => some (ended filterClause)
  | "ANNEXE" => some (ended (.annexe <$> path "class name"))
  | "ANNEXED" => some (ended (.annexed <$> name "annexed source"))
  | "JOIN" => some (ended (.join <$> joinDeclaration))
  | "NESTING" => some (ended (.nesting <$> nestingDeclaration))
  | word => (CommonClause.after? word).map (.common <$> ·)

/-- What follows the keyword of a clause of an inspection. -/
def InspectionClause.after? : String → Option (TokenReader InspectionClause)
  | "PARENT" => some (ended (.parent <$> name "parent column"))
  | "STRUCTATTR" => some (ended structAttrClause)
  | "CLASSCOL" => some (ended classColumnClause)
  | word => (CommonClause.after? word).map (.common <$> ·)

/-- The keywords of the clauses of a data declaration. -/
def DataClause.keywords : List String :=
  ["DIRECTION", "IDENT", "WHERE", "CONVERSION", "ALIAS", "WITH", "ANNEXE", "ANNEXED", "JOIN",
    "NESTING", "COLUMN"]

/-- The keywords of the clauses of an inspection. -/
def InspectionClause.keywords : List String :=
  ["DIRECTION", "IDENT", "PARENT", "STRUCTATTR", "CLASSCOL", "CONVERSION", "ALIAS", "WITH",
    "COLUMN"]

/-! ## Declarations -/

/-- A data declaration with one more clause. -/
def DataDeclaration.add (d : DataDeclaration) : DataClause → DataDeclaration
  | .common (.direction x) => { d with direction := x }
  | .common (.ident x) => { d with identColumn := some x }
  | .common (.conversion x) => { d with conversions := d.conversions ++ [x] }
  | .common (.shortName x) => { d with aliases := d.aliases ++ [x] }
  | .common (.withBlock x) => { d with withBlocks := d.withBlocks ++ [x] }
  | .common (.column x) => { d with columns := d.columns ++ [x] }
  | .filter x literal => { d with filter := d.filter.insert x literal }
  | .annexe x => { d with annexeTargets := d.annexeTargets ++ [x] }
  | .annexed x => { d with annexedSources := d.annexedSources ++ [x] }
  | .join x => { d with joins := d.joins ++ [x] }
  | .nesting x => { d with nestings := d.nestings ++ [x] }

/-- An inspection with one more clause. -/
def Inspection.add (i : Inspection) : InspectionClause → Inspection
  | .common (.direction x) => { i with direction := x }
  | .common (.ident x) => { i with identColumn := some x }
  | .common (.conversion x) => { i with conversions := i.conversions ++ [x] }
  | .common (.shortName x) => { i with aliases := i.aliases ++ [x] }
  | .common (.withBlock x) => { i with withBlocks := i.withBlocks ++ [x] }
  | .common (.column x) => { i with columns := i.columns ++ [x] }
  | .parent x => { i with parentColumn := some x }
  | .structAttr x map => { i with structAttrColumn := some x, structAttrMap := some map }
  | .classColumn x map => { i with classColumn := some x, classMap := some map }

/-- What a declaration of either kind begins with. -/
structure Header where
  name : String
  object : String
  className : String
  deriving DecidableEq, Inhabited

/-- The header of a declaration and the opening brace. -/
def header : TokenReader Header := do
  let declName ← name "declaration name"
  keyword "FROM"
  let object ← name "source object"
  keyword "CLASS"
  let className ← path "class name"
  symbol .leftBrace
  return ⟨declName, object, className⟩

/-- A further clause of a data declaration. -/
def dataClause? (d : DataDeclaration) : Token → Option (TokenReader DataDeclaration)
  | .name word => (DataClause.after? word).map (d.add <$> ·)
  | _ => none

/-- A data declaration, read after its keyword. -/
def dataDeclaration : TokenReader DataDeclaration := do
  let h ← header
  let d ← many dataClause? (.bare h.name h.object h.className)
  closingBrace (DataClause.keywords.map .keyword)
  let _ ← skipIf (.symbol .semicolon)
  return d

/-- A further clause of an inspection. -/
def inspectionClause? (i : Inspection) : Token → Option (TokenReader Inspection)
  | .name word => (InspectionClause.after? word).map (i.add <$> ·)
  | _ => none

/-- An inspection, read after its keyword. -/
def inspection : TokenReader Inspection := do
  let h ← header
  let i ← many inspectionClause? (.bare h.name h.object h.className)
  let brace ← ahead
  closingBrace (InspectionClause.keywords.map .keyword)
  if i.identColumn.isNone then failAt brace (.identMissing i.name)
  else
    let _ ← skipIf (.symbol .semicolon)
    return i

/-- A further entry of a value map, read after its code. -/
def mapEntry (m : ValueMap) (code : Code) : TokenReader ValueMap := do
  let after ← ahead
  symbol .arrow
  let target ← path "mapped path"
  symbol .semicolon
  if m.entries.contains code then failAt (.code code :: after) (.duplicateCode code m.name)
  else return { m with entries := m.entries.insert code target }

/-- A further entry of a value map. -/
def mapEntry? (m : ValueMap) : Token → Option (TokenReader ValueMap)
  | .code code => some (mapEntry m code)
  | _ => none

/-- A value map, read after its keyword. -/
def valueMap : TokenReader ValueMap := do
  let mapName ← name "VALUEMAP name"
  symbol .leftBrace
  let m ← many mapEntry? ⟨mapName, .empty⟩
  closingBrace [.code]
  let _ ← skipIf (.symbol .semicolon)
  return m

/-! ## Models -/

/-- A model with one more value map. -/
def Model.addValueMap (m : Model) (v : ValueMap) : Model :=
  { m with valueMaps := m.valueMaps.insert v.name v }

/-- A model with one more data declaration. -/
def Model.addData (m : Model) (d : DataDeclaration) : Model := { m with data := m.data ++ [d] }

/-- A model with one more inspection. -/
def Model.addInspection (m : Model) (i : Inspection) : Model :=
  { m with inspections := m.inspections ++ [i] }

/-- A further value map of a model, read after its keyword. -/
def valueMapStatement (m : Model) : TokenReader Model := do
  let after ← ahead
  let v ← valueMap
  if m.hasValueMap v.name then failAt (.name "VALUEMAP" :: after) (.duplicateMap v.name)
  else return m.addValueMap v

/-- A further statement of a model. -/
def statement? (m : Model) : Token → Option (TokenReader Model)
  | .name "VALUEMAP" => some (valueMapStatement m)
  | .name "DATA" => some (m.addData <$> dataDeclaration)
  | .name "INSPECTION" => some (m.addInspection <$> inspection)
  | _ => none

/-- The keywords of the statements. -/
def statementKeywords : List String := ["VALUEMAP", "DATA", "INSPECTION"]

/-- The name that a model is given in its text, or else the fallback. -/
def modelName (fallback : String) : TokenReader String := do
  if ← skipIf (.name "LM") then ended (name "model name") else return fallback

/-- A model. -/
def model (fallback : String) : TokenReader Model := do
  let n ← modelName fallback
  let m ← many statement? (.bare n)
  finish (statementKeywords.map .keyword)
  return m

/-! ## Texts -/

/-- The place of a failure among the tokens of a text. -/
def Tokens.locate (ts : Tokens) (ahead : List Token) : Location :=
  match (ts.list.drop (ts.list.length - ahead.length)).head? with
  | some t => t.location
  | none => ts.stop

/-- Reads the tokens of a text. -/
def Model.ofTokens (source : String) (ts : Tokens) : Except SyntaxError Model :=
  match (model source).run (ts.list.map LocatedToken.token) with
  | .ok (m, _) => .ok m
  | .error f => .error ⟨source, ts.locate f.ahead, f.reason⟩

/-- Reads a mapping text. `source` names the text in messages, and the model when the text gives
it no name. -/
def Model.parse (source text : String) : Except SyntaxError Model :=
  match tokenize text with
  | .ok ts => Model.ofTokens source ts
  | .error f => .error ⟨source, f.location, .fault f.fault⟩

end Crossmap.Mapping
