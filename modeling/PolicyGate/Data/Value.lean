/-! # Structured data

The values that data formats have in common: scalars, lists, records and tagged values. Whoever reads
settings asks little of data, so that other forms of data than these values can be read as well. -/

namespace PolicyGate.Data

inductive Value
  | null
  | bool (b : Bool)
  | integer (n : Int)
  /-- A number with a fraction. Nothing in this library reads its value. -/
  | fraction
  | text (s : String)
  | list (items : List Value)
  | record (members : List (String × Value))
  | variant (tag : String) (payload : Value)
deriving Repr

namespace Value

instance : Inhabited Value := ⟨.null⟩

/-- The member of a name; of two members with one name the first counts. -/
def member? (name : String) (members : List (String × Value)) : Option Value :=
  members.lookup name

def text? : Value → Option String
  | text s => some s
  | _ => none

def isNull : Value → Bool
  | null => true
  | _ => false

def bool? : Value → Option Bool
  | bool b => some b
  | _ => none

def integer? : Value → Option Int
  | integer n => some n
  | _ => none

def items? : Value → Option (List Value)
  | list vs => some vs
  | _ => none

def isSingle (names : List String) (members : List (String × Value)) : Bool :=
  names.all fun n => (members.filter fun m => m.1 = n).length ≤ 1

/-- The values of a fixed row of members: of a record by name, of a list by place. A member that is
missing is `none`; a list must not be longer than the row, and a record must not have a member twice. -/
def row? (names : List String) : Value → Option (List (Option Value))
  | record members =>
    if isSingle names members then some (names.map fun n => member? n members) else none
  | list vs =>
    if vs.length ≤ names.length then
      some (vs.map some ++ List.replicate (names.length - vs.length) none)
    else none
  | _ => none

/-- The form of a tagged value and what it holds. A record with one member is such a value too. -/
def form? : Value → Option (String × Value)
  | variant tag payload => some (tag, payload)
  | record [(tag, payload)] => some (tag, payload)
  | _ => none

def word? : Value → Option String
  | text s => some s
  | record [(s, null)] => some s
  | variant s payload => if payload.isNull then some s else none
  | _ => none

mutual

/-- The value in which each tagged value is a record with one member. -/
def untagged : Value → Value
  | list vs => list (untaggedList vs)
  | record ms => record (untaggedMembers ms)
  | variant tag payload => record [(tag, untagged payload)]
  | v => v

def untaggedList : List Value → List Value
  | [] => []
  | v :: vs => untagged v :: untaggedList vs

def untaggedMembers : List (String × Value) → List (String × Value)
  | [] => []
  | (name, v) :: ms => (name, untagged v) :: untaggedMembers ms

end
end Value

/-- Data from which settings can be read. -/
class Readable (δ : Type) where
  text? : δ → Option String
  /-- What may be missing: `some none` if it is, and `none` if this cannot be told. -/
  optional? : δ → Option (Option δ)
  row? : List String → δ → Option (List (Option δ))
  word? : δ → Option String

instance : Readable Value where
  text? := Value.text?
  optional? v := some (if v.isNull then none else some v)
  row? := Value.row?
  word? := Value.word?

end PolicyGate.Data
