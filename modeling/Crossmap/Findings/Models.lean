import Crossmap.Mapping.Model
import Crossmap.Schema.Basic

/-!
# What does not fit in a mapping model

A mapping model fits a schema when its declarations name classes of the schema, its columns end in
attributes that the class offers, and every value map that a column or a conversion names is
declared. `Model.findings` lists all that does not fit, declaration by declaration. Columns bound
to markers are not looked at, and a declaration of an unknown class says nothing else.
-/

namespace Crossmap

/-- The kind of a declaration. -/
inductive DeclarationKind where
  | data
  | inspection
  deriving DecidableEq, Inhabited

/-- The keyword of a kind of declaration. -/
def DeclarationKind.keyword : DeclarationKind → String
  | .data => "DATA"
  | .inspection => "INSPECTION"

/-- Something in a mapping model that does not fit. -/
inductive ModelFinding where
  /-- A declaration names a class that the schema does not have. -/
  | unknownClass (kind : DeclarationKind) (className : String)
  /-- A column ends in an attribute that its class does not offer. -/
  | unknownAttribute (attributeName className : String)
  /-- A column names a value map that is not declared. -/
  | unknownValueMap (map className attributeName : String)
  /-- A conversion names a value map that is not declared. -/
  | unknownConversionMap (map : String) (kind : DeclarationKind) (declaration : String)
  deriving DecidableEq, Inhabited

/-- The message of a finding. -/
def ModelFinding.message : ModelFinding → String
  | .unknownClass .data className => "Unknown class: " ++ className
  | .unknownClass .inspection className => "Unknown inspection class: " ++ className
  | .unknownAttribute attributeName className =>
    "Unknown attribute " ++ attributeName ++ " on " ++ className
  | .unknownValueMap map className attributeName =>
    "Unknown VALUEMAP " ++ map ++ " for " ++ className ++ "." ++ attributeName
  | .unknownConversionMap map kind declaration =>
    "Unknown conversion map " ++ map ++ " in " ++ kind.keyword ++ " " ++ declaration

namespace Mapping

variable (m : Model) (s : Schema)

/-- What does not fit in a column of a class. -/
def Column.findings (className : String) (c : Column) : List ModelFinding :=
  if c.isSynthetic then []
  else if !s.offersAttribute className c.attributeName then
    [.unknownAttribute c.attributeName className]
  else
    match c.valueMap with
    | some map =>
      if m.hasValueMap map then [] else [.unknownValueMap map className c.attributeName]
    | none => []

/-- What does not fit in a conversion. -/
def ConversionCall.findings (kind : DeclarationKind) (declaration : String) (c : ConversionCall) :
    List ModelFinding :=
  if m.hasValueMap c.valueMap then []
  else [.unknownConversionMap c.valueMap kind declaration]

/-- The columns of a declaration, those under aliases last. -/
def DataDeclaration.allColumns (d : DataDeclaration) : List Column :=
  d.columns ++ d.withBlocks.flatMap WithBlock.columns

/-- The columns of an inspection, those under aliases last. -/
def Inspection.allColumns (i : Inspection) : List Column :=
  i.columns ++ i.withBlocks.flatMap WithBlock.columns

/-- What does not fit in a data declaration. -/
def DataDeclaration.findings (d : DataDeclaration) : List ModelFinding :=
  if s.hasClass d.className then
    d.allColumns.flatMap (Column.findings m s d.className)
      ++ d.conversions.flatMap (ConversionCall.findings m .data d.name)
  else [.unknownClass .data d.className]

/-- What does not fit in an inspection. -/
def Inspection.findings (i : Inspection) : List ModelFinding :=
  if s.hasClass i.className then
    i.allColumns.flatMap (Column.findings m s i.className)
      ++ i.conversions.flatMap (ConversionCall.findings m .inspection i.name)
  else [.unknownClass .inspection i.className]

/-- What does not fit in a model. -/
def Model.findings : List ModelFinding :=
  m.data.flatMap (DataDeclaration.findings m s) ++ m.inspections.flatMap (Inspection.findings m s)

/-- The messages of what does not fit in a model. -/
def Model.check : List String := (m.findings s).map ModelFinding.message

end Mapping

end Crossmap
