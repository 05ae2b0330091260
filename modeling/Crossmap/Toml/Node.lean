import Crossmap.Document.Basic

/-!
# TOML documents

The values of a TOML document, and the tables that grow while one is read. A table remembers how it
came about, since that decides what may still be added to it: `define` takes a key and its value,
`openTable` a header and `extendTables` a header of an array of tables.
-/

namespace Crossmap

/-- How a table came about. -/
inductive TableOrigin where
  | header
  /-- By the header of a table inside it. -/
  | implied
  | dotted
  /-- In braces, so that nothing can be added to it. -/
  | inline
  deriving DecidableEq, Inhabited

/-- A node of a TOML document. -/
inductive Toml where
  | bool (b : Bool)
  | text (s : String)
  | measure
  | array (items : List Toml)
  /-- An array of tables, each with a header of its own, the last one first. -/
  | tables (newestFirst : List Toml)
  | table (origin : TableOrigin) (members : List (String × Toml))
  deriving Inhabited

namespace Toml

instance : Document Toml where
  isNull _ := false
  text?
    | .text s => some s
    | _ => none
  truth?
    | .bool b => some b
    | _ => none
  list?
    | .array items => some items
    | .tables newestFirst => some newestFirst.reverse
    | _ => none
  fieldList?
    | .array items => some items
    | .tables newestFirst => some newestFirst.reverse
    | _ => none
  members?
    | .table _ ms => some ms
    | _ => none
  coded?
    | .table _ ms => Document.numbered? ms
    | _ => none

/-- A table without members. -/
def emptyTable (origin : TableOrigin) : Toml := .table origin []

/-- The members with one of them changed, or made where it is missing. -/
def alter (key : String) (f : Option Toml → Option Toml) :
    List (String × Toml) → Option (List (String × Toml))
  | [] => do return [(key, ← f none)]
  | m :: rest =>
    if m.1 = key then do return (key, ← f (some m.2)) :: rest
    else do return m :: (← alter key f rest)

/-- A table with a key defined in the table that the path leads to. Tables on the way are made, and
only tables that dotted keys have made can be added to. Headers of tables inside it, and of tables
of an array, have made tables that the path can only lead through. -/
def define (key : String) (value : Toml) : List String → Toml → Option Toml
  | [], .table origin ms => do
    return .table origin (← alter key (fun
      | none => some value
      | some _ => none) ms)
  | name :: path, .table origin ms => do
    return .table origin (← alter name (fun
      | none => define key value path (emptyTable .dotted)
      | some (.table .dotted inner) => define key value path (.table .dotted inner)
      | some (.table .implied inner) =>
        if path.isEmpty then none else define key value path (.table .implied inner)
      | some (.tables (last :: before)) => do
        if path.isEmpty then none else return .tables ((← define key value path last) :: before)
      | some _ => none) ms)
  | _, _ => none

/-- Changes the table that a path of headers leads to. Tables on the way are made, and an array of
tables stands for its last table. -/
def within (f : Toml → Option Toml) : List String → Toml → Option Toml
  | [], t => f t
  | name :: path, .table origin ms => do
    return .table origin (← alter name (fun
      | none => within f path (emptyTable .implied)
      | some (.tables (last :: before)) => do return .tables ((← within f path last) :: before)
      | some (.table .inline _) => none
      | some (.table o inner) => within f path (.table o inner)
      | some _ => none) ms)
  | _, _ => none

/-- A table with a member changed. -/
def alterMember (key : String) (f : Option Toml → Option Toml) : Toml → Option Toml
  | .table origin ms => do return .table origin (← alter key f ms)
  | _ => none

/-- A document after the header of a table. -/
def openTable (path : List String) (key : String) : Toml → Option Toml :=
  within (alterMember key fun
    | none => some (emptyTable .header)
    | some (.table .implied ms) => some (.table .header ms)
    | some _ => none) path

/-- A document after the header of a further table of an array. -/
def extendTables (path : List String) (key : String) : Toml → Option Toml :=
  within (alterMember key fun
    | none => some (.tables [emptyTable .header])
    | some (.tables ts) => some (.tables (emptyTable .header :: ts))
    | some _ => none) path

end Toml

end Crossmap
