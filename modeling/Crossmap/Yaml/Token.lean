import Crossmap.Yaml.Scalar

/-!
# Tokens of YAML

The tokens of a document, with its blocks made explicit. `Layout` is what is known while a text is
cut into tokens: the columns of the blocks that are open, and for every open flow collection the
token that turns out to be a key when a colon follows. Such a key stands in one line with its colon
and at most 1024 bytes before it.
-/

namespace Crossmap.Yaml

/-- A token of a document. -/
inductive Token where
  | beginDocument
  | endDocument
  | beginItems
  | beginMembers
  | endBlock
  | item
  | key
  | value
  /-- The bracket that opens a flow sequence. -/
  | openList
  /-- The bracket that closes a flow sequence. -/
  | closeList
  /-- The brace that opens a flow mapping. -/
  | openMap
  /-- The brace that closes a flow mapping. -/
  | closeMap
  | comma
  /-- A scalar, and whether it stands without quotes. -/
  | scalar (isPlain : Bool) (text : String)
  deriving DecidableEq, Inhabited

/-- What is found to begin with a token once a colon follows. -/
inductive Beginning where
  | nothing
  | key
  /-- A block mapping with its first key. -/
  | members
  deriving DecidableEq, Inhabited

/-- The tokens for what begins. -/
def Beginning.tokens : Beginning → List Token
  | .nothing => []
  | .key => [.key]
  | .members => [.beginMembers, .key]

/-- A token that is a key if a colon follows. -/
structure PossibleKey where
  place : Place
  number : Nat
  /-- Whether nothing but a key can stand there. -/
  isRequired : Bool

/-- Whether a colon at a place comes too late for a key. -/
def PossibleKey.isStale (k : PossibleKey) (p : Place) : Bool :=
  k.place.line < p.line || k.place.bytes + 1024 < p.bytes

/-- What is known in the middle of a text. -/
structure Layout where
  /-- The tokens so far, each with what begins with it. -/
  tokens : Array (Beginning × Token)
  /-- The columns of the open blocks, the inmost first. -/
  columns : List Nat
  /-- The possible key of the inmost collection. -/
  key : Option PossibleKey
  /-- The possible keys around the open flow collections, the inmost first. -/
  outerKeys : List (Option PossibleKey)
  keyAllowed : Bool

namespace Layout

/-- What is known before the first character. -/
def start : Layout := ⟨#[], [], none, [], true⟩

/-- Whether a flow collection is open. -/
def inFlow (l : Layout) : Bool := !l.outerKeys.isEmpty

/-- With a further token, after which a key can begin or not. -/
def add (l : Layout) (t : Token) (keyAllowed : Bool) : Layout :=
  { l with tokens := l.tokens.push (.nothing, t), keyAllowed := keyAllowed }

/-- With all blocks closed that begin at a column or behind it. -/
def closeFrom (l : Layout) (column : Nat) : Layout :=
  if l.inFlow then l
  else
    let (closed, columns) := l.columns.span (column ≤ ·)
    { l with
      tokens := l.tokens ++ closed.map fun _ => (Beginning.nothing, Token.endBlock)
      columns := columns }

/-- Whether a block has to be opened for an entry that begins in a column. -/
def opensAt (l : Layout) (column : Nat) : Bool := !l.inFlow && l.columns.all (· < column)

/-- With a block opened if an entry in a column needs one. -/
def openAt (l : Layout) (column : Nat) (t : Token) : Layout :=
  if l.opensAt column then
    { l.add t l.keyAllowed with columns := column :: l.columns }
  else l

/-- Without the possible key; `none` if nothing else can stand there. -/
def dropKey (l : Layout) : Option Layout :=
  if l.key.any (·.isRequired) then none else some { l with key := none }

/-- With the next token as a possible key, if one can begin here. -/
def saveKey (l : Layout) (p : Place) : Option Layout :=
  if l.keyAllowed then do
    let isRequired := !l.inFlow && l.columns.head? = some p.column
    return { ← l.dropKey with key := some ⟨p, l.tokens.size, isRequired⟩ }
  else some l

/-- Without the possible keys for which a colon here comes too late; `none` if nothing else can
stand in the place of one of them. -/
def dropStale (l : Layout) (p : Place) : Option Layout :=
  let isStale (k : Option PossibleKey) : Bool := k.any (·.isStale p)
  let isLost (k : Option PossibleKey) : Bool := k.any fun k => k.isRequired && k.isStale p
  if isLost l.key || l.outerKeys.any isLost then none
  else
    some { l with
      key := if isStale l.key then none else l.key
      outerKeys := l.outerKeys.map fun k => if isStale k then none else k }

/-! ## One token -/

/-- After the mark of a document. -/
def mark (l : Layout) (t : Token) : Option Layout := do
  return (← (l.closeFrom 0).dropKey).add t false

/-- After the opening bracket or brace at a place. -/
def openFlow (l : Layout) (p : Place) (t : Token) : Option Layout := do
  let l ← l.saveKey p
  return { l.add t true with key := none, outerKeys := l.key :: l.outerKeys }

/-- After a closing bracket or brace. -/
def closeFlow (l : Layout) (t : Token) : Option Layout := do
  let l ← l.dropKey
  return { l.add t false with key := l.outerKeys.head?.join, outerKeys := l.outerKeys.tail }

/-- After a comma. -/
def comma (l : Layout) : Option Layout := do
  return (← l.dropKey).add .comma true

/-- After the dash at a place. -/
def item (l : Layout) (p : Place) : Option Layout := do
  if !l.inFlow && !l.keyAllowed then none
  else return (← (l.openAt p.column .beginItems).dropKey).add .item true

/-- After the question mark at a place, before a key of any kind. -/
def anyKey (l : Layout) (p : Place) : Option Layout := do
  if !l.inFlow && !l.keyAllowed then none
  else return (← (l.openAt p.column .beginMembers).dropKey).add .key (!l.inFlow)

/-- After the colon at a place. The token that can be a key is one now, and opens a block mapping if
it needs one; without such a token the colon belongs to a key of any kind. -/
def value (l : Layout) (p : Place) : Option Layout :=
  match l.key with
  | some k =>
    let opens := l.opensAt k.place.column
    let begins := if opens then Beginning.members else .key
    let l := { l with
      tokens := l.tokens.modify k.number fun t => (begins, t.2)
      columns := if opens then k.place.column :: l.columns else l.columns
      key := none }
    some (l.add .value false)
  | none =>
    if !l.inFlow && !l.keyAllowed then none
    else some ((l.openAt p.column .beginMembers).add .value (!l.inFlow))

/-- The column at which further lines of a plain scalar begin at least. -/
def textColumn (l : Layout) : Nat := l.columns.head?.elim 0 (· + 1)

/-- After the scalar that begins with a character at a place, and what follows it. -/
def scalar? (l : Layout) (p : Place) (c : Char) (cs : List Char) : Option (Layout × Cursor) := do
  let l ← l.saveKey p
  if c = '"' then
    let (text, next) ← doubleQuoted false [] [] (p.after c) cs
    return (l.add (.scalar false (String.ofList text)) false, next)
  else if c = '\'' then
    let (text, next) ← singleQuoted [] [] (p.after c) cs
    return (l.add (.scalar false (String.ofList text)) false, next)
  else if beginsPlain l.inFlow c cs then
    let text ← plainText l.inFlow l.textColumn [] [] p (c :: cs)
    return (l.add (.scalar true (String.ofList text.chars)) text.endsLine, text.after)
  else none

/-- After the token that begins with a character at a place, and what follows it. -/
def next? (l : Layout) (p : Place) (c : Char) (cs : List Char) : Option (Layout × Cursor) :=
  let behind (l? : Option Layout) : Option (Layout × Cursor) := l?.map (·, ⟨p.after c, cs⟩)
  let behindMark (l? : Option Layout) : Option (Layout × Cursor) :=
    l?.map (·, ⟨p.afterAll [c, c, c], cs.drop 2⟩)
  if atMark '-' p (c :: cs) then behindMark (l.mark .beginDocument)
  else if atMark '.' p (c :: cs) then behindMark (l.mark .endDocument)
  else if c = '[' then behind (l.openFlow p .openList)
  else if c = '{' then behind (l.openFlow p .openMap)
  else if c = ']' then behind (l.closeFlow .closeList)
  else if c = '}' then behind (l.closeFlow .closeMap)
  else if c = ',' then behind l.comma
  else if c = '-' && atSpace cs then behind (l.item p)
  else if c = '?' && (l.inFlow || atSpace cs) then behind (l.anyKey p)
  else if c = ':' && (l.inFlow || atSpace cs) then behind (l.value p)
  else l.scalar? p c cs

end Layout

/-! ## All tokens -/

/-- Skips white space and comments up to the next token: what follows, and whether a key can begin
there. Outside flow collections one can on every new line, and no tab stands where one can. A byte
order mark at the front of a line is passed over. -/
def nextToken (inFlow keyAllowed inComment : Bool) (p : Place) : List Char → Bool × Cursor
  | [] => (keyAllowed, ⟨p, []⟩)
  | c :: cs =>
    if isBreak c then nextToken inFlow (keyAllowed || !inFlow) false (p.after c) cs
    else if inComment || c = '#' then nextToken inFlow keyAllowed true (p.after c) cs
    else if c = ' ' || (c = '\t' && (inFlow || !keyAllowed))
        || (c.toNat = 0xFEFF && p.column = 0) then
      nextToken inFlow keyAllowed false (p.after c) cs
    else (keyAllowed, ⟨p, c :: cs⟩)

/-- The layout at the end of a text. The first argument bounds the number of tokens. -/
def layout? : Nat → Layout → Cursor → Option Layout
  | 0, _, _ => none
  | n + 1, l, x => do
    let (keyAllowed, x) := nextToken l.inFlow l.keyAllowed false x.place x.rest
    let l ← { l with keyAllowed := keyAllowed }.dropStale x.place
    let l := l.closeFrom (x.place.column + 1)
    match x.rest with
    | [] => (l.closeFrom 0).dropKey
    | c :: cs =>
      let (l, x) ← l.next? x.place c cs
      layout? n l x

/-- The tokens of a text. -/
def tokens? (cs : List Char) : Option (List Token) := do
  let l ← layout? (cs.length + 1) .start ⟨.start, cs⟩
  return l.tokens.toList.flatMap fun t => t.1.tokens ++ [t.2]

end Crossmap.Yaml
