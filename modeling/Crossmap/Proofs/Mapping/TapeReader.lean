import Crossmap.Proofs.Mapping.ModelReading
import Crossmap.Proofs.Mapping.Scanner

/-! # Reading a tape of tokens with a cursor

`Tape.model` reads the marks of a text as a program does that keeps an index into them. The index
stands still on the last mark, which is the mark of the end; what is looked at beyond the tape, a
clause that no one can read and a clause in the wrong kind of declaration are traps. Every loop is a
`Machine.loop`, so that every round is held to move the index on.
-/

namespace Crossmap.Mapping

/-- A reading of marks. -/
abbrev TapeReader := Machine Unit SyntaxError

/-- The marks of a text, and the name under which the text was given. -/
structure Tape where
  source : String
  marks : List Mark

/-- A clause of a declaration, whatever the kind of the declaration. -/
inductive Clause where
  | common (c : CommonClause)
  | filter (column literal : String)
  | annexe (className : String)
  | annexed (source : String)
  | join (j : JoinDeclaration)
  | nesting (n : NestingDeclaration)
  | parent (column : String)
  | structAttr (column map : String)
  | classColumn (column map : String)

namespace Clause

/-- The clause of a data declaration that a clause is. -/
def data? : Clause → Option DataClause
  | .common c => some (.common c)
  | .filter column literal => some (.filter column literal)
  | .annexe className => some (.annexe className)
  | .annexed source => some (.annexed source)
  | .join j => some (.join j)
  | .nesting n => some (.nesting n)
  | .parent _ => none
  | .structAttr _ _ => none
  | .classColumn _ _ => none

/-- The clause of an inspection that a clause is. -/
def inspection? : Clause → Option InspectionClause
  | .common c => some (.common c)
  | .parent column => some (.parent column)
  | .structAttr column map => some (.structAttr column map)
  | .classColumn column map => some (.classColumn column map)
  | .filter _ _ => none
  | .annexe _ => none
  | .annexed _ => none
  | .join _ => none
  | .nesting _ => none

end Clause

namespace Tape

variable {α σ : Type} (tape : Tape)

/-! ## Marks -/

/-- The mark at the cursor, or the last one where the cursor is behind it. -/
def peek : TapeReader Mark where
  run c :=
    match tape.marks[min c.pos (tape.marks.length - 1)]? with
    | some mark => .done (mark, c)
    | none => .trapped .outOfRange
  fuel_le {c a c'} h := by
    split at h <;> cases h
    exact Nat.le_refl _

/-- Moves the cursor to the next mark; on the last one it stands still. -/
def advance : TapeReader Unit where
  run c := .done ((), if c.pos + 1 < tape.marks.length then { c with pos := c.pos + 1 } else c)
  fuel_le {c a c'} h := by
    cases h
    split <;> exact Nat.le_refl _

/-- Refuses the text at a place. -/
def failAt (l : Location) (reason : Reason) : TapeReader α := .fail ⟨tape.source, l, reason⟩

/-- Refuses the text for a mark that cannot stand where it does. -/
def unexpected (mark : Mark) (expected : List Expected) : TapeReader α :=
  tape.failAt mark.location (.unexpected mark.token expected)

/-- Takes the next token if it is a certain one. -/
def eat (wanted : Token) : TapeReader Bool := do
  let mark ← tape.peek
  if mark.token = some wanted then
    tape.advance
    return true
  else return false

/-- Takes the next token if something is accepted in it. -/
def take (expected : List Expected) (accept : Token → Option α) : TapeReader α := do
  let mark ← tape.peek
  match mark.token.bind accept with
  | some a =>
    tape.advance
    return a
  | none => tape.unexpected mark expected

/-- Takes the next token, which has to be a certain one. -/
def demand (wanted : Token) (expected : Expected) : TapeReader Unit := do
  if ← tape.eat wanted then return ()
  else
    let mark ← tape.peek
    tape.unexpected mark [expected]

/-- A symbol. -/
def symbol (s : Symbol) : TapeReader Unit := tape.demand (.symbol s) (.symbol s)

/-- A name that serves as a keyword. -/
def keyword (word : String) : TapeReader Unit := tape.demand (.name word) (.keyword word)

/-- Any name. -/
def name (role : String) : TapeReader String :=
  tape.take [.name role] fun
    | .name s => some s
    | _ => none

/-- Takes a dot and the segment after it. -/
def segmentRound (role path : String) : TapeReader (Machine.Round String String) := do
  if ← tape.eat (.symbol .dot) then
    let segment ← tape.name role
    return .again (path ++ "." ++ segment)
  else return .leave path

/-- A dotted name. -/
def path (role : String) : TapeReader String := do
  let first ← tape.name role
  .loop (tape.segmentRound role) first

/-! ## Clauses -/

/-- A clause and the semicolon after it. -/
def ended (m : TapeReader α) : TapeReader α := do
  let a ← m
  tape.symbol .semicolon
  return a

/-- Takes an entry of a block, or the brace that closes it. -/
def blockRound (entry : σ → TapeReader σ) (s : σ) : TapeReader (Machine.Round σ σ) := do
  if ← tape.eat (.symbol .rightBrace) then return .leave s
  else
    let s' ← entry s
    return .again s'

/-- The entries of a block up to the closing brace. -/
def block (entry : σ → TapeReader σ) (s : σ) : TapeReader σ := .loop (tape.blockRound entry) s

/-- The target path of a column. -/
def targetPath : TapeReader String := do
  let mark ← tape.peek
  match mark.token with
  | some (.marker s) =>
    tape.advance
    return markerPath s
  | _ => tape.path "target path"

/-- A column and its path, the marker standing on either side of the arrow. -/
def binding : TapeReader Column := do
  match ← tape.take [.name "column name", .marker] nameOrMarker? with
  | .marker s =>
    tape.symbol .arrow
    let column ← tape.name "target column"
    return ⟨column, markerPath s, none⟩
  | .name s =>
    tape.symbol .arrow
    let path ← tape.targetPath
    return ⟨s, path, none⟩

/-- A column with its path and its value map. -/
def boundColumn : TapeReader Column := do
  let bound ← tape.binding
  if ← tape.eat (.symbol .comma) then
    let map ← tape.name "VALUEMAP name"
    return { bound with valueMap := some map }
  else return bound

/-- A conversion. -/
def conversionCall : TapeReader ConversionCall := do
  let map ← tape.name "VALUEMAP name"
  tape.symbol .leftParen
  let sourceColumn ← tape.name "source column"
  tape.symbol .doubleDash
  let targetAlias ← tape.name "target alias"
  tape.symbol .rightParen
  return ⟨map, sourceColumn, targetAlias⟩

/-- A short name of a class. -/
def aliasDeclaration : TapeReader AliasDeclaration := do
  let short ← tape.name "alias name"
  tape.symbol .tilde
  let className ← tape.path "class name"
  return ⟨short, className⟩

/-- A column of a block. -/
def blockColumn (columns : List Column) : TapeReader (List Column) := do
  let mark ← tape.peek
  if mark.token = some (.name "COLUMN") then
    tape.advance
    let column ← tape.ended tape.boundColumn
    return columns ++ [column]
  else tape.unexpected mark [.keyword "COLUMN", .symbol .rightBrace]

/-- Columns under an alias. -/
def columnBlock : TapeReader WithBlock := do
  let aliasName ← tape.name "alias name"
  tape.symbol .leftBrace
  let columns ← tape.block tape.blockColumn []
  let _ ← tape.eat (.symbol .semicolon)
  return ⟨aliasName, columns⟩

/-- A filter. -/
def filter : TapeReader Clause := do
  let column ← tape.name "filter column"
  let _ ← tape.eat (.symbol .equals)
  let literal ← tape.take [.quoted] fun
    | .quoted s => some s
    | _ => none
  return .filter column literal

/-- A join. -/
def joinDeclaration : TapeReader JoinDeclaration := do
  let joinType ← tape.name "join type"
  let source ← tape.name "join source"
  tape.keyword "ON"
  let leftColumn ← tape.name "join column"
  tape.symbol .equals
  let rightColumn ← tape.name "join column"
  return ⟨joinType, source, leftColumn, rightColumn⟩

/-- A nesting. -/
def nestingDeclaration : TapeReader NestingDeclaration := do
  let child ← tape.name "nested object"
  tape.keyword "BY"
  let byColumn ← tape.name "nesting column"
  return ⟨child, byColumn⟩

/-- A column and a value map, in the clause that they make. -/
def columnAndMap (role : String) (make : String → String → Clause) : TapeReader Clause := do
  let column ← tape.name role
  let map ← tape.name "VALUEMAP name"
  return make column map

/-- What follows the keyword of a clause. -/
def clauseAfter (word : String) : TapeReader Clause :=
  match word with
  | "DIRECTION" => tape.ended ((.common ∘ .direction) <$>
      tape.take [.symbol .bothArrow, .symbol .leftArrow, .symbol .arrow] directionOf?)
  | "IDENT" => tape.ended ((.common ∘ .ident) <$> tape.name "ident column")
  | "WHERE" => tape.ended tape.filter
  | "CONVERSION" => tape.ended ((.common ∘ .conversion) <$> tape.conversionCall)
  | "ALIAS" => tape.ended ((.common ∘ .shortName) <$> tape.aliasDeclaration)
  | "WITH" => (.common ∘ .withBlock) <$> tape.columnBlock
  | "ANNEXE" => tape.ended (.annexe <$> tape.path "class name")
  | "ANNEXED" => tape.ended (.annexed <$> tape.name "annexed source")
  | "JOIN" => tape.ended (.join <$> tape.joinDeclaration)
  | "NESTING" => tape.ended (.nesting <$> tape.nestingDeclaration)
  | "PARENT" => tape.ended (.parent <$> tape.name "parent column")
  | "STRUCTATTR" => tape.ended (tape.columnAndMap "structure attribute column" .structAttr)
  | "CLASSCOL" => tape.ended (tape.columnAndMap "class column" .classColumn)
  | "COLUMN" => tape.ended ((.common ∘ .column) <$> tape.boundColumn)
  | _ => .trap (.unsupported word)

/-- The keyword of some that a token is. -/
def keyword? (allowed : List String) : Option Token → Option String
  | some (.name word) => if word ∈ allowed then some word else none
  | _ => none

/-- A clause that begins with one of some keywords. -/
def clause (allowed : List String) : TapeReader Clause := do
  let mark ← tape.peek
  match keyword? allowed mark.token with
  | some word =>
    tape.advance
    tape.clauseAfter word
  | none => tape.unexpected mark (allowed.map .keyword ++ [.symbol .rightBrace])

/-! ## Declarations -/

/-- The header of a declaration and the opening brace. -/
def header : TapeReader Header := do
  let declName ← tape.name "declaration name"
  tape.keyword "FROM"
  let object ← tape.name "source object"
  tape.keyword "CLASS"
  let className ← tape.path "class name"
  tape.symbol .leftBrace
  return ⟨declName, object, className⟩

/-- A clause of a data declaration. -/
def dataEntry (d : DataDeclaration) : TapeReader DataDeclaration := do
  let c ← tape.clause DataClause.keywords
  match c.data? with
  | some c => return d.add c
  | none => .trap .misplaced

/-- A data declaration, after its keyword. -/
def dataDeclaration : TapeReader DataDeclaration := do
  let h ← tape.header
  let d ← tape.block tape.dataEntry (.bare h.name h.object h.className)
  let _ ← tape.eat (.symbol .semicolon)
  return d

/-- A clause of an inspection. -/
def inspectionEntry (i : Inspection) : TapeReader Inspection := do
  let c ← tape.clause InspectionClause.keywords
  match c.inspection? with
  | some c => return i.add c
  | none => .trap .misplaced

/-- Takes a clause of an inspection, or the brace that closes it if its ident column is known. -/
def inspectionRound (i : Inspection) : TapeReader (Machine.Round Inspection Inspection) := do
  let mark ← tape.peek
  if ← tape.eat (.symbol .rightBrace) then
    if i.identColumn.isNone then tape.failAt mark.location (.identMissing i.name)
    else return .leave i
  else
    let i' ← tape.inspectionEntry i
    return .again i'

/-- An inspection, after its keyword. -/
def inspection : TapeReader Inspection := do
  let h ← tape.header
  let i ← .loop tape.inspectionRound (.bare h.name h.object h.className)
  let _ ← tape.eat (.symbol .semicolon)
  return i

/-- An entry of a value map. -/
def mapEntry (m : ValueMap) : TapeReader ValueMap := do
  let mark ← tape.peek
  match mark.token with
  | some (.code code) =>
    tape.advance
    tape.symbol .arrow
    let target ← tape.path "mapped path"
    tape.symbol .semicolon
    if m.entries.contains code then tape.failAt mark.location (.duplicateCode code m.name)
    else return { m with entries := m.entries.insert code target }
  | _ => tape.unexpected mark [.code, .symbol .rightBrace]

/-- A value map, after its keyword. -/
def valueMap : TapeReader ValueMap := do
  let mapName ← tape.name "VALUEMAP name"
  tape.symbol .leftBrace
  let m ← tape.block tape.mapEntry ⟨mapName, .empty⟩
  let _ ← tape.eat (.symbol .semicolon)
  return m

/-! ## Models -/

/-- A statement and the place of its keyword. -/
def statement : TapeReader (Statement × Location) := do
  let mark ← tape.peek
  match mark.token with
  | some (.name "VALUEMAP") =>
    tape.advance
    let v ← tape.valueMap
    return (.valueMap v, mark.location)
  | some (.name "DATA") =>
    tape.advance
    let d ← tape.dataDeclaration
    return (.data d, mark.location)
  | some (.name "INSPECTION") =>
    tape.advance
    let i ← tape.inspection
    return (.inspection i, mark.location)
  | _ => tape.unexpected mark (statementKeywords.map .keyword)

/-- A model with one more statement; a value map whose name has come before is refused where it
begins. -/
def add (m : Model) (start : Location) : Statement → TapeReader Model
  | .valueMap v =>
    if m.hasValueMap v.name then tape.failAt start (.duplicateMap v.name)
    else return m.addValueMap v
  | .data d => return m.addData d
  | .inspection i => return m.addInspection i

/-- Takes a statement, unless the end is reached. -/
def modelRound (m : Model) : TapeReader (Machine.Round Model Model) := do
  let mark ← tape.peek
  if mark.token = none then return .leave m
  else
    let s ← tape.statement
    let m' ← tape.add m s.2 s.1
    return .again m'

/-- The name that a model is given in its text, or else the name of the text. -/
def modelName : TapeReader String := do
  if ← tape.eat (.name "LM") then tape.ended (tape.name "model name")
  else return tape.source

/-- A model. -/
def model : TapeReader Model := do
  let n ← tape.modelName
  .loop tape.modelRound (.bare n)

end Tape

end Crossmap.Mapping
