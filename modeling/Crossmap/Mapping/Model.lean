import Crossmap.Dict
import Crossmap.Number.Decimal
import Crossmap.Text.Split

/-!
# Mapping models

A mapping model relates the objects of one storage to the classes of a schema. It declares

* value maps, which relate integer codes to paths;
* data declarations, each of which maps the rows of one object to records of one class;
* inspections, whose rows choose class and structural role one by one.

A column is bound to a target path. A path that begins with `$` is a marker: it stands for a part
of the record itself and not for an attribute.
-/

namespace Crossmap.Mapping

/-- The marker of a record's parent. -/
def parentMarker : String := "$PARENT"

/-- The marker of a record's structural role. -/
def structAttrMarker : String := "$STRUCTATTR"

/-- The marker of a record's class. -/
def classMarker : String := "$CLASS"

/-- The marker of a record's ident. -/
def identMarker : String := "$IDENT"

/-- The text that value maps leave alone in both directions. -/
def passThrough : String := "@"

/-- A relation between codes and paths. -/
structure ValueMap where
  /-- The name under which columns refer to the map. -/
  name : String
  /-- The path of every code, in declared order. -/
  entries : Dict Code String
  deriving DecidableEq, Inhabited

namespace ValueMap

/-- The path of a code. -/
def path? (m : ValueMap) (code : Code) : Option String := m.entries.get? code

/-- The codes that have a path, in declared order. -/
def codesFor (m : ValueMap) (path : String) : List Code :=
  (m.entries.entries.filter fun e => e.2 = path).map Prod.fst

end ValueMap

/-- The direction in which a declaration is meant to be used. -/
inductive Direction where
  | bidirectional
  | inputOnly
  | outputOnly
  deriving DecidableEq, Inhabited

namespace Direction

/-- The name of a direction. -/
def text : Direction → String
  | .bidirectional => "BIDIRECTIONAL"
  | .inputOnly => "INPUT_ONLY"
  | .outputOnly => "OUTPUT_ONLY"

/-- The arrow by which a mapping text writes a direction. -/
def arrow : Direction → String
  | .bidirectional => "<->"
  | .inputOnly => "<-"
  | .outputOnly => "->"

/-- Every direction. -/
def all : List Direction := [.bidirectional, .inputOnly, .outputOnly]

/-- The direction of an arrow. -/
def ofArrow? (s : String) : Option Direction := all.find? fun d => d.arrow = s

/-- The direction of a name. -/
def ofText? (s : String) : Option Direction := all.find? fun d => d.text = s

end Direction

/-- A column and the target path that it is bound to, with the value map between them. -/
structure Column where
  sourceColumn : String
  /-- The attribute path or marker of the record. -/
  targetPath : String
  /-- The value map that relates the two. -/
  valueMap : Option String
  deriving DecidableEq, Inhabited

namespace Column

/-- Whether the path is a marker. -/
def isSynthetic (c : Column) : Bool := c.targetPath.toList.head? == some '$'

/-- The attribute that the path ends in. -/
def attributeName (c : Column) : String := Text.lastSegment c.targetPath

end Column

/-- A named conversion of a column. -/
structure ConversionCall where
  valueMap : String
  sourceColumn : String
  targetAlias : String
  deriving DecidableEq, Inhabited

/-- A short name for a class. -/
structure AliasDeclaration where
  shortName : String
  className : String
  deriving DecidableEq, Inhabited

/-- Columns under an alias. -/
structure WithBlock where
  aliasName : String
  columns : List Column
  deriving DecidableEq, Inhabited

/-- A join with another object. -/
structure JoinDeclaration where
  joinType : String
  source : String
  leftColumn : String
  rightColumn : String
  deriving DecidableEq, Inhabited

/-- An object nested in another. -/
structure NestingDeclaration where
  child : String
  /-- The column that refers to the outer object. -/
  byColumn : String
  deriving DecidableEq, Inhabited

/-- A declaration that maps the rows of one object to records of one class. -/
structure DataDeclaration where
  name : String
  object : String
  className : String
  direction : Direction
  /-- The column that holds the ident; without it idents are made up. -/
  identColumn : Option String
  /-- The literals that the columns of a row have to equal. -/
  filter : Dict String String
  conversions : List ConversionCall
  aliases : List AliasDeclaration
  withBlocks : List WithBlock
  annexeTargets : List String
  annexedSources : List String
  joins : List JoinDeclaration
  nestings : List NestingDeclaration
  columns : List Column
  deriving DecidableEq, Inhabited

/-- A declaration whose rows choose class and structural role one by one. -/
structure Inspection where
  name : String
  object : String
  /-- The class of a row that chooses none. -/
  className : String
  direction : Direction
  identColumn : Option String
  parentColumn : Option String
  /-- The column that holds the structural role. -/
  structAttrColumn : Option String
  /-- The value map of the structural role. -/
  structAttrMap : Option String
  classColumn : Option String
  classMap : Option String
  conversions : List ConversionCall
  aliases : List AliasDeclaration
  withBlocks : List WithBlock
  columns : List Column
  deriving DecidableEq, Inhabited

/-- A mapping model. -/
structure Model where
  name : String
  valueMaps : Dict String ValueMap
  data : List DataDeclaration
  inspections : List Inspection
  deriving DecidableEq, Inhabited

/-- A data declaration without clauses. -/
def DataDeclaration.bare (name object className : String) : DataDeclaration where
  name := name
  object := object
  className := className
  direction := .bidirectional
  identColumn := none
  filter := .empty
  conversions := []
  aliases := []
  withBlocks := []
  annexeTargets := []
  annexedSources := []
  joins := []
  nestings := []
  columns := []

/-- An inspection without clauses. -/
def Inspection.bare (name object className : String) : Inspection where
  name := name
  object := object
  className := className
  direction := .bidirectional
  identColumn := none
  parentColumn := none
  structAttrColumn := none
  structAttrMap := none
  classColumn := none
  classMap := none
  conversions := []
  aliases := []
  withBlocks := []
  columns := []

/-- A model without declarations. -/
def Model.bare (name : String) : Model where
  name := name
  valueMaps := .empty
  data := []
  inspections := []

/-- The value map of a name. -/
def Model.valueMap? (m : Model) (name : String) : Option ValueMap := m.valueMaps.get? name

/-- Whether a value map of a name is declared. -/
def Model.hasValueMap (m : Model) (name : String) : Bool := m.valueMaps.contains name

end Crossmap.Mapping
