import PolicyGate.Data.Yaml.Tag
/-! # The layout of a YAML text

Reads the tokens of a text. A block begins where a token stands further right than the block around it,
and ends where one stands further left. Where something begins that may turn out to be a key, its place
among the tokens is kept; a colon in the same line then makes a key of it. -/

namespace PolicyGate.Data.Yaml

/-- A place where a key may have begun. -/
structure PendingKey where
  position : Nat
  start : Cursor
  isRequired : Bool

structure Layout where
  cursor : Cursor
  /-- The tokens, the last one first. -/
  tokens : List Token := []
  count : Nat := 0
  indent : Int := -1
  outer : List Int := []
  /-- The pending key, for each pair of brackets around this place and for the block around them. -/
  keys : List (Option PendingKey) := [none]

namespace Layout

def inFlow (l : Layout) : Bool :=
  !(l.keys.drop 1).isEmpty

def goTo (l : Layout) (c : Cursor) : Layout :=
  { l with cursor := c }

def put (l : Layout) (t : Token) : Layout :=
  { l with tokens := t :: l.tokens, count := l.count + 1 }

def putAt (l : Layout) (position : Nat) (t : Token) : Layout :=
  let later := l.count - position
  { l with tokens := l.tokens.take later ++ t :: l.tokens.drop later, count := l.count + 1 }

/-! ## Blocks -/

/-- Begins a block, unless the place is inside brackets or in a block with this column. -/
def openBlock (l : Layout) (column : Nat) (position : Nat) (t : Token) : Layout :=
  if !l.inFlow && l.indent < column then
    { l.putAt position t with indent := column, outer := l.indent :: l.outer }
  else l

def closing (column : Int) : Int → List Int → Nat × Int × List Int
  | indent, [] => (0, indent, [])
  | indent, o :: outer =>
    if column < indent then
      let (n, rest) := closing column o outer
      (n + 1, rest)
    else (0, indent, o :: outer)

def closeBlocks (l : Layout) (column : Int) : Layout :=
  if l.inFlow then l
  else
    let (n, indent, outer) := closing column l.indent l.outer
    { l with
      tokens := List.replicate n .blockEnd ++ l.tokens
      count := l.count + n
      indent, outer }

/-! ## Pending keys -/

def keyLimit : Nat := 1024

/-- Gives up the pending key of this place; none can be given up where nothing but a key can stand. -/
def dropKey? (l : Layout) : Option Layout :=
  match l.keys with
  | some k :: keys => if k.isRequired then none else some { l with keys := none :: keys }
  | _ => some l

def dropOldKeys? (l : Layout) : Option Layout := do
  let keys ← l.keys.mapM fun key =>
    match key with
    | some k =>
      if k.start.line < l.cursor.line ∨ k.start.index + keyLimit < l.cursor.index then
        if k.isRequired then none else some none
      else some (some k)
    | none => some none
  return { l with keys }

def holdKey? (l : Layout) : Option Layout :=
  if l.cursor.mayOpen then do
    let l ← l.dropKey?
    return { l with
      keys := some ⟨l.count, l.cursor, !l.inFlow && l.indent == l.cursor.column⟩ :: l.keys.drop 1 }
  else some l

/-! ## Tokens -/

def pass (l : Layout) (t : Token) (length : Nat) (mayOpen : Bool) : Layout :=
  (l.put t).goTo ((l.cursor.skip length).opening mayOpen)

def opened? (l : Layout) (t : Token) : Option Layout := do
  let l ← l.holdKey?
  return { l.pass t 1 true with keys := none :: l.keys }

def closed? (l : Layout) (t : Token) : Option Layout := do
  let l ← l.dropKey?
  let keys := if l.inFlow then l.keys.drop 1 else l.keys
  return { l.pass t 1 false with keys }

def dash? (l : Layout) : Option Layout := do
  if !l.inFlow && !l.cursor.mayOpen then none
  else
    let l ← (l.openBlock l.cursor.column l.count .listStart).dropKey?
    return l.pass .dash 1 true

def key? (l : Layout) : Option Layout := do
  if !l.inFlow && !l.cursor.mayOpen then none
  else
    let l ← (l.openBlock l.cursor.column l.count .recordStart).dropKey?
    return l.pass .key 1 (!l.inFlow)

/-- The colon in front of a value. It makes a key of what is pending. -/
def value? (l : Layout) : Option Layout := do
  match l.keys with
  | some k :: keys =>
    let l := { l.putAt k.position .key with keys := none :: keys }
    return (l.openBlock k.start.column k.position .recordStart).pass .value 1 false
  | _ =>
    if !l.inFlow && !l.cursor.mayOpen then none
    else
      return (l.openBlock l.cursor.column l.count .recordStart).pass .value 1 (!l.inFlow)

def read? (l : Layout) (taken : Option (Token × Cursor)) : Option Layout := do
  let (t, c) ← taken
  return (l.put t).goTo (c.opening false)

def quoted? (l : Layout) (quote : Char) : Option Layout := do
  let l ← l.holdKey?
  let (cs, c) ← quotedRest? quote (l.cursor.rest.length + 1) (l.cursor.skip 1)
  return (l.put (.scalar (String.ofList cs) false)).goTo (c.opening false)

def plain? (l : Layout) : Option Layout := do
  let l ← l.holdKey?
  let (cs, c) ← plainWords? l.inFlow l.indent (l.cursor.rest.length + 1) l.cursor
  return (l.put (.scalar (String.ofList cs) true)).goTo c

def block? (l : Layout) : Option Layout := do
  let l ← l.dropKey?
  let (cs, c) ← blockScalar? l.indent l.cursor
  return (l.put (.scalar (String.ofList cs) false)).goTo c

def outermost? (l : Layout) : Option Layout :=
  (l.closeBlocks (-1)).dropKey?

def token? (l : Layout) (x : Char) : Option Layout := do
  let c := l.cursor
  if c.column = 0 ∧ x = '%' then (← l.outermost?).read? (directive? c)
  else if c.isBoundary then
    return (← l.outermost?).pass (if x = '-' then .documentStart else .documentEnd) 3 false
  else if x = '[' then l.opened? .bracketOpen
  else if x = '\x7b' then l.opened? .braceOpen
  else if x = ']' then l.closed? .bracketClose
  else if x = '\x7d' then l.closed? .braceClose
  else if x = ',' then return (← l.dropKey?).pass .comma 1 true
  else if c.isMark '-' then l.dash?
  else if x = '?' ∧ (l.inFlow || c.isMark '?') then l.key?
  else if x = ':' ∧ (l.inFlow || c.isMark ':') then l.value?
  else if x = '*' then
    (← l.holdKey?).read? ((anchorName? c).map fun (name, c) => (.alias name, c))
  else if x = '&' then
    (← l.holdKey?).read? ((anchorName? c).map fun (name, c) => (.anchor name, c))
  else if x = '!' then (← l.holdKey?).read? (tag? l.inFlow c)
  else if (x = '|' ∨ x = '>') ∧ !l.inFlow then l.block?
  else if x = '\'' ∨ x = '"' then l.quoted? x
  else if mayBePlain l.inFlow c then l.plain?
  else none

def run? : Nat → Layout → Option (List Token)
  | 0, _ => none
  | fuel + 1, l => do
    let l ← (l.goTo (l.cursor.toToken l.inFlow)).dropOldKeys?
    match l.cursor.head? with
    | none => return (← l.outermost?).tokens.reverse
    | some x => run? fuel (← (l.closeBlocks l.cursor.column).token? x)

end Layout

def isAllowed (c : Char) : Bool :=
  let n := c.toNat
  n == 0x09 || n == 0x0A || n == 0x0D || n == 0x85 || (0x20 ≤ n && n ≤ 0x7E) ||
    (0xA0 ≤ n && n ≤ 0xFFFD) || 0x10000 ≤ n

def unifyBreaks : List Char → List Char
  | [] => []
  | '\r' :: '\n' :: cs => '\n' :: unifyBreaks cs
  | '\r' :: cs => '\n' :: unifyBreaks cs
  | '\u0085' :: cs => '\n' :: unifyBreaks cs
  | c :: cs => c :: unifyBreaks cs

def tokens? (s : String) : Option (List Token) :=
  let cs := match s.toList with
    | c :: cs => if c = byteOrderMark then cs else c :: cs
    | [] => []
  if cs.all isAllowed then Layout.run? (cs.length + 1) { cursor := { rest := unifyBreaks cs } }
  else none

end PolicyGate.Data.Yaml
