import Crossmap.Yaml.Node
import Crossmap.Yaml.Token

/-!
# Reading YAML

`Yaml.read?` reads a text that holds at most one document. Collections stand in block or in flow
style, and every node can be a key. A node that is left out is an empty scalar. Anchors, aliases,
tags, directives and block scalars are not read.
-/

namespace Crossmap.Yaml

/-- Whether one of some tokens stands at the front. -/
def atToken (ts : List Token) : List Token → Bool
  | [] => false
  | t :: _ => t ∈ ts

/-- The tokens behind which a member of a block has no further part. -/
def endsPart : List Token → Bool := atToken [.key, .value, .endBlock]

mutual

/-- Reads a node; in a block a collection in block style can stand there, and in a member also a
sequence that is not indented. The first argument bounds the nesting of the calls. -/
def node : Nat → (inBlock inMember : Bool) → List Token → Option (Yaml × List Token)
  | n + 1, _, _, .openList :: ts => (listItems n true [] ts).map fun r => (.list r.1, r.2)
  | n + 1, _, _, .openMap :: ts => (mapMembers n true [] ts).map fun r => (.map r.1, r.2)
  | n + 1, true, _, .beginItems :: ts => (blockItems n [] ts).map fun r => (.list r.1, r.2)
  | n + 1, true, _, .beginMembers :: ts => (blockMembers n [] ts).map fun r => (.map r.1, r.2)
  | n + 1, _, true, .item :: ts => (looseItems n [] (.item :: ts)).map fun r => (.list r.1, r.2)
  | _ + 1, _, _, .scalar isPlain s :: ts => some (.scalar isPlain s, ts)
  | _, _, _, _ => none

/-- Reads the items of a block sequence up to its end, after those before them. -/
def blockItems : Nat → List Yaml → List Token → Option (List Yaml × List Token)
  | n + 1, done, .item :: ts =>
    if atToken [.item, .endBlock] ts then blockItems n (missing :: done) ts
    else do
      let (item, ts) ← node n true false ts
      blockItems n (item :: done) ts
  | _ + 1, done, .endBlock :: ts => some (done.reverse, ts)
  | _, _, _ => none

/-- Reads the items of a sequence that is not indented, after those before them. -/
def looseItems : Nat → List Yaml → List Token → Option (List Yaml × List Token)
  | 0, _, _ => none
  | n + 1, done, .item :: ts =>
    if atToken [.item] ts || endsPart ts then looseItems n (missing :: done) ts
    else do
      let (item, ts) ← node n true false ts
      looseItems n (item :: done) ts
  | _ + 1, done, ts => some (done.reverse, ts)

/-- Reads the members of a block mapping up to its end, after those before them. -/
def blockMembers : Nat → List (Yaml × Yaml) → List Token →
    Option (List (Yaml × Yaml) × List Token)
  | n + 1, done, .key :: ts => do
    let (key, ts) ← if endsPart ts then some (missing, ts) else node n true true ts
    let (value, ts) ← match ts with
      | .value :: ts => if endsPart ts then some (missing, ts) else node n true true ts
      | ts => some (missing, ts)
    blockMembers n ((key, value) :: done) ts
  | _ + 1, done, .endBlock :: ts => some (done.reverse, ts)
  | _, _, _ => none

/-- Reads the items of a flow sequence up to the closing bracket, after those before them;
one can begin at the front and behind a comma. An item can be a single key with its value. -/
def listItems : Nat → (canBegin : Bool) → List Yaml → List Token →
    Option (List Yaml × List Token)
  | 0, _, _, _ => none
  | _ + 1, _, done, .closeList :: ts => some (done.reverse, ts)
  | n + 1, false, done, .comma :: ts => listItems n true done ts
  | n + 1, true, done, .key :: ts => do
    let (m, ts) ← single n ts
    listItems n false (.map [m] :: done) ts
  | n + 1, true, done, ts => do
    let (item, ts) ← node n false false ts
    listItems n false (item :: done) ts
  | _ + 1, false, _, _ => none

/-- Reads a single key, after its mark, and its value. Where the key is missing, the token there
is passed over. -/
def single : Nat → List Token → Option ((Yaml × Yaml) × List Token)
  | 0, _ => none
  | n + 1, ts => do
    let (key, ts) ←
      if atToken [.value, .comma, .closeList] ts then some (missing, ts.tail)
      else node n false false ts
    let (value, ts) ← match ts with
      | .value :: ts =>
        if atToken [.comma, .closeList] ts then some (missing, ts) else node n false false ts
      | ts => some (missing, ts)
    return ((key, value), ts)

/-- Reads the members of a flow mapping up to the closing brace, after those before them; one can
begin at the front and behind a comma. A member without a mark is a key without a value. -/
def mapMembers : Nat → (canBegin : Bool) → List (Yaml × Yaml) → List Token →
    Option (List (Yaml × Yaml) × List Token)
  | 0, _, _, _ => none
  | _ + 1, _, done, .closeMap :: ts => some (done.reverse, ts)
  | n + 1, false, done, .comma :: ts => mapMembers n true done ts
  | n + 1, true, done, .key :: ts => do
    let (key, ts) ←
      if atToken [.value, .comma, .closeMap] ts then some (missing, ts) else node n false false ts
    let (value, ts) ← match ts with
      | .value :: ts =>
        if atToken [.comma, .closeMap] ts then some (missing, ts) else node n false false ts
      | ts => some (missing, ts)
    mapMembers n false ((key, value) :: done) ts
  | n + 1, true, done, ts => do
    let (key, ts) ← node n false false ts
    mapMembers n false ((key, missing) :: done) ts
  | _ + 1, false, _, _ => none

end

/-- The node of the only document that the tokens hold. A document begins with a mark or without
one, and any number of marks may end it. A text without a document stands for an empty node. -/
def document? (ts : List Token) : Option Yaml := do
  let (root, ts) ← match ts with
    | [] => some (missing, [])
    | .beginDocument :: ts =>
      if ts.isEmpty || atToken [.beginDocument, .endDocument] ts then some (missing, ts)
      else node (3 * ts.length + 1) true false ts
    | ts => node (3 * ts.length + 1) true false ts
  if ts.all (· = .endDocument) then return root else none

/-- Reads a text that holds at most one document. -/
def read? (s : String) : Option Yaml := do document? (← tokens? (← source? s))

end Crossmap.Yaml
