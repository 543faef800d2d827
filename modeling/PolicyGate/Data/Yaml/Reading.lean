import PolicyGate.Data.Value
import PolicyGate.Data.Yaml.Layout
import PolicyGate.Data.Yaml.Node
/-! # Reading from YAML

What a node means to whoever reads settings. A scalar is a text whatever its tag. Whether it is missing,
and which of several forms it is, can be told by its tag. -/

namespace PolicyGate.Data.Yaml

def Document.ofText? (s : String) : Option Document := do
  Document.ofTokens? (← tokens? s)

structure Place where
  node : Node
  anchored : List (Nat × Node)

def Document.start (d : Document) : Place :=
  ⟨d.root, d.anchored⟩

def nullTag : Bytes := Text.toBytes "tag:yaml.org,2002:null"

def isNullWord (s : String) : Bool :=
  ["~", "null", "Null", "NULL"].contains s

/-- The form that a tag names: what follows its exclamation mark. -/
def formOfTag? (tag : Option Bytes) : Option String := do
  let first :: rest ← tag | none
  if first = '!'.toUInt8 then Text.ofBytes? (if rest.isEmpty then [first] else rest) else none

namespace Place

def inside (p : Place) (n : Node) : Place :=
  { p with node := n }

def target? (p : Place) : Option Node :=
  match p.node with
  | .alias anchor => p.anchored.lookup anchor
  | n => some n

def text? (p : Place) : Option String := do
  match ← p.target? with
  | .scalar _ text _ => return text
  | _ => none

/-- What may be missing. A plain scalar with a tag of missing values has to be a word for one. -/
def optional? (p : Place) : Option (Option Place) := do
  let n ← p.target?
  match n with
  | .scalar none text true => return if text = "" ∨ isNullWord text then none else some (p.inside n)
  | .scalar (some tag) text true =>
    if tag ≠ nullTag then return some (p.inside n) else if isNullWord text then return none else none
  | _ => return some (p.inside n)

/-- The members of a record with these names. All keys have to be scalars, and none of these names may
stand twice. -/
def row? (names : List String) (p : Place) : Option (List (Option Place)) := do
  match ← p.target? with
  | .record _ members =>
    let named ← members.mapM fun (key, value) => do return (← (p.inside key).text?, p.inside value)
    if names.all fun n => (named.filter fun m => m.1 = n).length ≤ 1 then
      return names.map fun n => named.lookup n
    else none
  | _ => none

/-- The name of a form: of the tag of a missing value, or the text of a scalar without such a tag. -/
def word? (p : Place) : Option String := do
  match ← p.target? with
  | .scalar tag text isPlain =>
    match formOfTag? tag with
    | some form => if isPlain && (text = "" || isNullWord text) then return form else none
    | none => return text
  | _ => none

end Place

instance : Readable Place where
  text? := Place.text?
  optional? := Place.optional?
  row? := Place.row?
  word? := Place.word?

end PolicyGate.Data.Yaml
