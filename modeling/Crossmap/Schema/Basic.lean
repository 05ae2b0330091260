import Crossmap.Dict

/-!
# Schemas

A schema declares classes and their attributes. Mapping models are checked against it before a
conversion, and the records of a conversion afterwards.

Classes and attributes stand under keys. The keys decide what is declared; the names inside the
declarations are what messages speak of, and `Schema.nameByKeys` makes the two agree.
-/

namespace Crossmap

/-- The declaration of an attribute. -/
structure AttributeDeclaration where
  name : String
  kind : String
  /-- Whether every record of the class needs a value. -/
  isMandatory : Bool
  /-- The class that the values refer to. -/
  reference : Option String
  choices : List String
  deriving DecidableEq, Inhabited

/-- An attribute of a kind, without further properties. -/
def AttributeDeclaration.plain (name kind : String) : AttributeDeclaration where
  name := name
  kind := kind
  isMandatory := false
  reference := none
  choices := []

/-- The declaration of a class. -/
structure ClassDeclaration where
  name : String
  /-- Whether the class is a structure, without records of its own. -/
  isStructure : Bool
  superclass : Option String
  /-- The attributes that the class itself declares, by name. -/
  attributes : Dict String AttributeDeclaration
  deriving DecidableEq, Inhabited

namespace ClassDeclaration

/-- A class without attributes. -/
def bare (name : String) : ClassDeclaration where
  name := name
  isStructure := false
  superclass := none
  attributes := .empty

/-- The class with an attribute more, or in place of the one of the same name. -/
def addAttribute (c : ClassDeclaration) (a : AttributeDeclaration) : ClassDeclaration :=
  { c with attributes := c.attributes.insert a.name a }

/-- The mandatory attributes, in declared order. -/
def mandatoryAttributes (c : ClassDeclaration) : List AttributeDeclaration :=
  c.attributes.values.filter AttributeDeclaration.isMandatory

/-- The class under a key, with every name taken from the key of what it names. -/
def nameByKeys (key : String) (c : ClassDeclaration) : ClassDeclaration :=
  { c with name := key, attributes := c.attributes.mapValues fun k a => { a with name := k } }

end ClassDeclaration

/-- A schema: classes by qualified name. -/
structure Schema where
  classes : Dict String ClassDeclaration
  deriving DecidableEq, Inhabited

namespace Schema

/-- The schema without classes. -/
def empty : Schema := ⟨.empty⟩

/-- The schema with a class more, or in place of the one of the same name. -/
def addClass (s : Schema) (c : ClassDeclaration) : Schema := ⟨s.classes.insert c.name c⟩

/-- The schema with every name taken from the key of what it names. -/
def nameByKeys (s : Schema) : Schema := ⟨s.classes.mapValues ClassDeclaration.nameByKeys⟩

/-- The names of the classes. -/
def classNames (s : Schema) : List String := s.classes.keys

/-- The class of a name. -/
def class? (s : Schema) (name : String) : Option ClassDeclaration := s.classes.get? name

/-- Whether a class is declared. -/
def hasClass (s : Schema) (name : String) : Bool := s.classes.contains name

/-- The attribute that a class itself declares. -/
def attribute? (s : Schema) (className attributeName : String) : Option AttributeDeclaration :=
  (s.class? className).bind fun c => c.attributes.get? attributeName

/-- Whether a class itself declares an attribute. -/
def hasAttribute (s : Schema) (className attributeName : String) : Bool :=
  (s.attribute? className attributeName).isSome

/-- The classes that extend a class directly. -/
def subclasses (s : Schema) (className : String) : List ClassDeclaration :=
  s.classes.values.filter fun c => c.superclass = some className

/-- Whether an attribute can be addressed through a class: the class itself or a class that extends
it directly declares it. -/
def offersAttribute (s : Schema) (className attributeName : String) : Bool :=
  s.hasAttribute className attributeName
    || (s.subclasses className).any fun c => c.attributes.contains attributeName

end Schema

end Crossmap
