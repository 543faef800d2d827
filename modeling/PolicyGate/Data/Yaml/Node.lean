import PolicyGate.Data.Yaml.Token
/-! # YAML nodes

A document is a tree of nodes, in which an alias stands for a node that an anchor marks elsewhere in the
document, even one that the alias lies in. -/

namespace PolicyGate.Data.Yaml

/-- A node. Anchors are told apart by numbers. -/
inductive Node
  | scalar (tag : Option Bytes) (text : String) (isPlain : Bool)
  | list (tag : Option Bytes) (items : List Node)
  | record (tag : Option Bytes) (members : List (Node × Node))
  | alias (anchor : Nat)
deriving Repr

/-- A document: its root, and the nodes that anchors mark, the last one first. -/
structure Document where
  root : Node
  anchored : List (Nat × Node)

def Node.missing : Node := .scalar none "" true

/-- The part of a document that a reader has built: the tokens that are left, the number of each name of
an anchor, and the nodes with anchors, the last one first. -/
structure Building where
  tokens : List Token
  names : List (String × Nat) := []
  anchored : List (Nat × Node) := []

namespace Building

def next (b : Building) : Building :=
  { b with tokens := b.tokens.drop 1 }

def head? (b : Building) : Option Token :=
  b.tokens.head?

def isAt (b : Building) (ts : List Token) : Bool :=
  b.head?.any ts.contains

def name (b : Building) (anchor : String) : Nat × Building :=
  let number := b.names.length
  (number, { b with names := (anchor, number) :: b.names.filter (·.1 ≠ anchor) })

/-- Marks a node with the number of an anchor. Where the number was given again inside the node, it
stays with what is inside; `before` is the number of marked nodes before the node began. -/
def mark (b : Building) (number : Option Nat) (before : Nat) (n : Node) : Building :=
  match number with
  | none => b
  | some number =>
    let inside := b.anchored.take (b.anchored.length - before)
    if inside.any (·.1 = number) then b else { b with anchored := (number, n) :: b.anchored }

end Building

abbrev Handles := List (String × Bytes)

def standardHandles : Handles :=
  [("!", Text.toBytes "!"), ("!!", Text.toBytes "tag:yaml.org,2002:")]

def wholeTag? (handles : Handles) (handle : String) (suffix : Bytes) : Option Bytes :=
  if handle = "" then some suffix else (handles.lookup handle).map (· ++ suffix)

structure Properties where
  anchor : Option Nat := none
  tag : Option Bytes := none

def anchor? (p : Properties) (b : Building) : Properties × Building :=
  match b.head? with
  | some (.anchor a) =>
    let (number, b) := b.next.name a
    ({ p with anchor := some number }, b)
  | _ => (p, b)

def nodeTag? (handles : Handles) (p : Properties) (b : Building) : Option (Properties × Building) :=
  match b.head? with
  | some (.tag handle suffix) =>
    (wholeTag? handles handle suffix).map fun tag => ({ p with tag := some tag }, b.next)
  | _ => some (p, b)

def properties? (handles : Handles) (b : Building) : Option (Properties × Building) := do
  let (p, b) := anchor? {} b
  let (p, b) ← nodeTag? handles p b
  return if p.anchor.isSome then (p, b) else anchor? p b

/-- Where a node stands: what may begin it. -/
inductive Context
  | flow
  | block
  /-- A key or a value in a block, which may be a list whose dashes stand at the column of the key. -/
  | member
deriving DecidableEq

mutual

/-- Takes a node. Each step takes a token or goes to a reader of what lies inside. -/
def node? (handles : Handles) (context : Context) : Nat → Building → Option (Node × Building)
  | 0, _ => none
  | fuel + 1, b =>
    match b.head? with
    | some (.alias name) => (b.names.lookup name).map fun number => (.alias number, b.next)
    | _ => do
      let before := b.anchored.length
      let (p, b) ← properties? handles b
      let finish (n : Node) (b : Building) : Option (Node × Building) := some (n, b.mark p.anchor before n)
      match b.head? with
      | some (.scalar text isPlain) => finish (.scalar p.tag text isPlain) b.next
      | some .bracketOpen =>
        let (items, b) ← flowItems? handles true fuel b.next
        finish (.list p.tag items) b
      | some .braceOpen =>
        let (members, b) ← flowMembers? handles true fuel b.next
        finish (.record p.tag members) b
      | t =>
        if context = .member ∧ t = some .dash then
          let (items, b) ← openItems? handles fuel b
          finish (.list p.tag items) b
        else if context ≠ .flow ∧ t = some .listStart then
          let (items, b) ← blockItems? handles fuel b.next
          finish (.list p.tag items) b
        else if context ≠ .flow ∧ t = some .recordStart then
          let (members, b) ← blockMembers? handles fuel b.next
          finish (.record p.tag members) b
        else if p.anchor.isSome || p.tag.isSome then finish (.scalar p.tag "" true) b
        else none

def nodeBefore? (handles : Handles) (context : Context) (ends : List Token) :
    Nat → Building → Option (Node × Building)
  | 0, _ => none
  | fuel + 1, b => if b.isAt ends then some (.missing, b) else node? handles context fuel b

def blockItems? (handles : Handles) : Nat → Building → Option (List Node × Building)
  | 0, _ => none
  | fuel + 1, b => do
    match b.head? with
    | some .dash =>
      let (item, b) ← nodeBefore? handles .block [.dash, .blockEnd] fuel b.next
      let (items, b) ← blockItems? handles fuel b
      return (item :: items, b)
    | some .blockEnd => return ([], b.next)
    | _ => none

/-- Takes the items of a list whose dashes stand at the column of a key. -/
def openItems? (handles : Handles) : Nat → Building → Option (List Node × Building)
  | 0, _ => none
  | fuel + 1, b => do
    match b.head? with
    | some .dash =>
      let (item, b) ← nodeBefore? handles .block [.dash, .key, .value, .blockEnd] fuel b.next
      let (items, b) ← openItems? handles fuel b
      return (item :: items, b)
    | _ => return ([], b)

def blockMembers? (handles : Handles) : Nat → Building → Option (List (Node × Node) × Building)
  | 0, _ => none
  | fuel + 1, b => do
    let ends : List Token := [.key, .value, .blockEnd]
    match b.head? with
    | some .key =>
      let (key, b) ← nodeBefore? handles .member ends fuel b.next
      let (value, b) ←
        if b.head? = some .value then nodeBefore? handles .member ends fuel b.next
        else some (.missing, b)
      let (members, b) ← blockMembers? handles fuel b
      return ((key, value) :: members, b)
    | some .blockEnd => return ([], b.next)
    | _ => none

/-- Takes the items of a list in brackets, up to its end. A key among them begins a record of one
member. -/
def flowItems? (handles : Handles) (isFirst : Bool) :
    Nat → Building → Option (List Node × Building)
  | 0, _ => none
  | fuel + 1, b => do
    if b.head? = some .bracketClose then return ([], b.next)
    else
      let b ← if isFirst then some b else if b.head? = some .comma then some b.next else none
      match b.head? with
      | some .bracketClose => return ([], b.next)
      | some .key =>
        let (member, b) ← flowPair? handles fuel b.next
        let (items, b) ← flowItems? handles false fuel b
        return (.record none [member] :: items, b)
      | _ =>
        let (item, b) ← node? handles .flow fuel b
        let (items, b) ← flowItems? handles false fuel b
        return (item :: items, b)

/-- Takes the only member of a record in a list in brackets, behind the sign of its key. Where the key
is missing, the token that shows it is passed over. -/
def flowPair? (handles : Handles) : Nat → Building → Option ((Node × Node) × Building)
  | 0, _ => none
  | fuel + 1, b => do
    let (key, b) ←
      if b.isAt [.value, .comma, .bracketClose] then some (.missing, b.next)
      else node? handles .flow fuel b
    let (value, b) ←
      if b.head? = some .value then nodeBefore? handles .flow [.comma, .bracketClose] fuel b.next
      else some (.missing, b)
    return ((key, value), b)

def flowMembers? (handles : Handles) (isFirst : Bool) :
    Nat → Building → Option (List (Node × Node) × Building)
  | 0, _ => none
  | fuel + 1, b => do
    if b.head? = some .braceClose then return ([], b.next)
    else
      let b ← if isFirst then some b else if b.head? = some .comma then some b.next else none
      match b.head? with
      | some .braceClose => return ([], b.next)
      | some .key =>
        let (key, b) ← nodeBefore? handles .flow [.value, .comma, .braceClose] fuel b.next
        let (value, b) ←
          if b.head? = some .value then nodeBefore? handles .flow [.comma, .braceClose] fuel b.next
          else some (.missing, b)
        let (members, b) ← flowMembers? handles false fuel b
        return ((key, value) :: members, b)
      | _ =>
        let (key, b) ← node? handles .flow fuel b
        let (members, b) ← flowMembers? handles false fuel b
        return ((key, .missing) :: members, b)

end

/-! ## Documents -/

/-- Takes the directives of a document: at most one version, which must be known, and handles, of which
no two have the same name. -/
def directives? (hasVersion : Bool) (handles : Handles) : List Token → Option (Handles × List Token)
  | .version major minor :: ts =>
    if !hasVersion && major = 1 && (minor = 1 || minor = 2) then directives? true handles ts else none
  | .handle name meaning :: ts =>
    if (handles.lookup name).isSome then none
    else directives? hasVersion ((name, meaning) :: handles) ts
  | ts => some (handles, ts)

/-- The document that tokens make. Nothing may follow it but signs of its end. Directives need the sign
of a document's start. -/
def Document.ofTokens? (ts : List Token) : Option Document := do
  let (handles, content) ← directives? false [] ts
  let fuel := 3 * ts.length + 3
  let handles := handles ++ standardHandles
  let (root, b) ←
    match content with
    | .documentStart :: content =>
      if content.isEmpty then some (.missing, { tokens := content })
      else nodeBefore? handles .block [.documentEnd] fuel { tokens := content }
    | _ =>
      if content.length = ts.length then node? handles .block fuel { tokens := content } else none
  if b.tokens.all (· = .documentEnd) then return ⟨root, b.anchored⟩ else none

end PolicyGate.Data.Yaml
