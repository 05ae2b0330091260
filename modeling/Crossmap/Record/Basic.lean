import Crossmap.Mapping.Model

/-!
# Records

A record is what stands between source and target rows: a class, an ident, a structural role in
another record, and values under target paths. A marker addresses what a record is besides its
values.
-/

namespace Crossmap

/-- A record of a class. -/
structure Record where
  className : String
  ident : String
  /-- The ident of the record that it is part of. -/
  parent : Option String
  /-- The attribute of that record in which it stands. -/
  structAttr : Option String
  values : Dict String String
  deriving DecidableEq, Inhabited

namespace Record

/-- A record without values. -/
def bare (className ident : String) : Record where
  className := className
  ident := ident
  parent := none
  structAttr := none
  values := .empty

/-- The record with a value put under a target path. -/
def setValue (r : Record) (path value : String) : Record :=
  { r with values := r.values.insert path value }

/-- What a target path addresses: a marker a part of the record itself, any other path a value. -/
def field? (r : Record) (path : String) : Option String :=
  if path = Mapping.parentMarker then r.parent
  else if path = Mapping.structAttrMarker then r.structAttr
  else if path = Mapping.classMarker then some r.className
  else if path = Mapping.identMarker then some r.ident
  else r.values.get? path

end Record

end Crossmap
