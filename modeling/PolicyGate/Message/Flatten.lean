import PolicyGate.Data.StringMap
import PolicyGate.Fact.Basic
import PolicyGate.Message.Basic
/-! # From messages to facts

A message becomes a set of facts, an atom at each dotted path:

| Field                     | Facts                                                  |
|---------------------------|--------------------------------------------------------|
| scalar                    | one atom at the path; truth values are 0 and 1         |
| enumeration               | the name of the value as a string                      |
| timestamp                 | one date                                               |
| message                   | the facts of its fields below the path                 |
| repeated scalar           | one list at the path                                   |
| repeated message          | one list at each path below, in the order of elements  |
| map                       | the facts of each value below `path.key`               |
| floating point, group     | none: the field is refused or dropped                  |

An unsigned number above the signed 64-bit range counts as unsupported. A dropped field is dropped
whole, so every fact that remains is exact. -/

namespace PolicyGate

open Time (Instant)
open Data (StringMap)

abbrev FactSet := StringMap Atom

inductive UnsupportedFields
  | reject
  | drop
deriving DecidableEq, Repr

inductive TimestampFault
  | unexpectedShape (field : String)
  | secondsOutside (seconds : Int64)
  | nanosOutside (nanos : Int32)
deriving DecidableEq, Repr

def TimestampFault.message : TimestampFault → String
  | unexpectedShape field => "unexpected shape for '" ++ field ++ "'"
  | secondsOutside seconds =>
    "seconds " ++ toString seconds.toInt ++ " outside 0001-01-01..9999-12-31"
  | nanosOutside nanos => "nanos " ++ toString nanos.toInt ++ " outside 0..=999999999"

inductive FlattenError
  | unsupportedKind (path : String) (kind : FieldKind)
  | unnamedEnum (path : String) (number : Int32)
  | invalidTimestamp (path : String) (fault : TimestampFault)
  | kindMismatch (path : String) (declared actual : FieldKind)
  | pathCollision (path : String)
  | misaligned (path : String) (present elements : Nat)
deriving DecidableEq, Repr

def FlattenError.message : FlattenError → String
  | unsupportedKind path kind =>
    "field '" ++ path ++ "' has kind " ++ kind.text ++ ", which has no exact atom representation"
  | unnamedEnum path number =>
    "field '" ++ path ++ "' holds enum number " ++ toString number.toInt ++
      ", which has no name in the schema"
  | invalidTimestamp path fault =>
    "field '" ++ path ++ "' holds an invalid timestamp: " ++ fault.message
  | kindMismatch path declared actual =>
    "field '" ++ path ++ "' is declared as " ++ declared.text ++ " but holds a " ++ actual.text ++
      " value"
  | pathCollision path => "more than one field renders to the path '" ++ path ++ "'"
  | misaligned path present elements =>
    "field '" ++ path ++ "' is set in " ++ toString present ++ " of " ++ toString elements ++
      " repeated elements"

inductive DropWarning
  | field (message path : String) (kind : FieldKind)
  | subField (path : String) (present elements : Nat)
deriving DecidableEq, Repr

structure Trail where
  dropped : List String := []
  warnings : List DropWarning := []
deriving DecidableEq, Repr

/-- A computation that may fail and leaves a trail of what it dropped. -/
abbrev Walk := ExceptT FlattenError (StateM Trail)

namespace Message

def timestampName : String := "google.protobuf.Timestamp"

def joinPath (above name : String) : String :=
  if above = "" then name else above ++ "." ++ name

def isUnder (path root : String) : Bool :=
  path == root ||
    (root.toList.isPrefixOf path.toList && (path.toList.drop root.length).head? == some '.')

def addFact (path : String) (atom : Atom) (facts : FactSet) : Walk FactSet :=
  match facts.get? path with
  | some _ => throw (.pathCollision path)
  | none => return facts.set path fun _ => atom

def addFacts : List (String × Atom) → FactSet → Walk FactSet
  | [], facts => return facts
  | (path, atom) :: rest, facts => do addFacts rest (← addFact path atom facts)

def scalarAtom (path : String) (declared : FieldKind) (s : Scalar) : Walk Atom :=
  if s.kind ≠ declared then throw (.kindMismatch path declared s.kind)
  else
    match s with
    | .bool b => return .ofBool b
    | .int32 n => return .integer n.toInt64
    | .int64 n => return .integer n
    | .uint32 n => return .integer (Int64.ofNat n.toNat)
    | .uint64 n =>
      if (n.toNat : Int) ≤ Int64.maxValue.toInt then return .integer (Int64.ofNat n.toNat)
      else throw (.unsupportedKind path .uint64)
    | .string s => return .string s
    | .bytes bs => return .bytes bs
    | .enum _ (some name) => return .string name
    | .enum number none => throw (.unnamedEnum path number)
    | .float => throw (.unsupportedKind path .float)
    | .double => throw (.unsupportedKind path .double)
    | .group => throw (.unsupportedKind path .group)

def leafAtom (path : String) (declared : FieldKind) : FieldValue → Walk Atom
  | .scalar s => scalarAtom path declared s
  | .message .. => throw (.kindMismatch path declared .message)

/-- The seconds and nanoseconds that the fields of a timestamp hold. The last value of a field
counts. -/
def timestampParts (seconds : Int64) (nanos : Int32) :
    List Field → Except TimestampFault (Int64 × Int32)
  | [] => .ok (seconds, nanos)
  | field :: fields =>
    if field.name = "seconds" then
      match field.content with
      | .single (.scalar (.int64 n)) => timestampParts n nanos fields
      | _ => .error (.unexpectedShape field.name)
    else if field.name = "nanos" then
      match field.content with
      | .single (.scalar (.int32 n)) => timestampParts seconds n fields
      | _ => .error (.unexpectedShape field.name)
    else timestampParts seconds nanos fields

def timestampInstant (fields : List Field) : Except TimestampFault Instant := do
  let (seconds, nanos) ← timestampParts 0 0 fields
  if h : -62135596800 ≤ seconds.toInt ∧ seconds.toInt ≤ 253402300799 then
    if h' : 0 ≤ nanos.toInt ∧ nanos.toInt ≤ 999999999 then
      return { seconds := seconds.toInt, nanos := nanos.toInt.toNat
               isInstant := by
                 unfold Time.IsInstant Time.earliestSecond Time.latestSecond Time.nanosPerSecond
                 omega }
    else throw (.nanosOutside nanos)
  else throw (.secondsOutside seconds)

def timestampAtom (path : String) (fields : List Field) : Walk Atom :=
  match timestampInstant fields with
  | .ok t => return .date t
  | .error fault => throw (.invalidTimestamp path fault)

def orDrop (policy : UnsupportedFields) (message path : String) (w : Walk FactSet) : Walk FactSet :=
  tryCatch w fun e =>
    match policy, e with
    | .drop, .unsupportedKind _ kind => do
      modify fun t =>
        { dropped := t.dropped ++ [path], warnings := t.warnings ++ [.field message path kind] }
      return .empty
    | _, e => throw e

/-- Runs a computation with a list of dropped paths of its own, and gives that list too. -/
def withOwnDropped {α : Type} (w : Walk α) : Walk (α × List String) := do
  let outer ← getModify fun t => { t with dropped := [] }
  let result ← observing w
  let own ← getModify fun t => { t with dropped := outer.dropped }
  return (← ofExcept result, own.dropped)

/-- Gathers, for each path that was not dropped, the atoms of the elements in their order. -/
def columns (dropped : List String) (elements : List FactSet) : StringMap (List Atom) :=
  (elements.flatMap StringMap.entries).foldl
    (fun m (path, atom) =>
      if dropped.any (isUnder path) then m else m.set path fun atoms => atoms.getD [] ++ [atom])
    .empty

def addColumns (policy : UnsupportedFields) (count : Nat) :
    List (String × List Atom) → FactSet → Walk FactSet
  | [], facts => return facts
  | (path, atoms) :: rest, facts =>
    if atoms.length ≠ count then
      match policy with
      | .drop => do
        modify fun t => { t with warnings := t.warnings ++ [.subField path atoms.length count] }
        addColumns policy count rest facts
      | .reject => throw (.misaligned path atoms.length count)
    else do addColumns policy count rest (← addFact path (.list atoms) facts)

/-- Kinds without an exact form; they are refused even where the field is empty. -/
def isUnsupported (kind : FieldKind) : Bool :=
  kind == .float || kind == .double || kind == .group

mutual

def fieldsFacts (policy : UnsupportedFields) (message above : String) :
    List Field → FactSet → Walk FactSet
  | [], facts => return facts
  | field :: fields, facts => do
    let path := joinPath above field.name
    let own ← orDrop policy message path (fieldFacts policy path field)
    fieldsFacts policy message above fields (← addFacts own.entries facts)

def fieldFacts (policy : UnsupportedFields) (path : String) : Field → Walk FactSet
  | .mk _ kind content =>
    if isUnsupported kind then throw (.unsupportedKind path kind)
    else contentFacts policy path kind content

def contentFacts (policy : UnsupportedFields) (path : String) (kind : FieldKind) :
    FieldContent → Walk FactSet
  | .unset => return .empty
  | .single value => valueFacts policy path kind value .empty
  | .repeated values =>
    if kind = .message then do
      let (elements, dropped) ← withOwnDropped (elementsFacts policy path values)
      addColumns policy values.length (columns dropped elements).entries .empty
    else do
      let atoms ← values.mapM (leafAtom path kind)
      addFact path (.list atoms) .empty
  | .map entries => entriesFacts policy path kind entries .empty

def valueFacts (policy : UnsupportedFields) (path : String) (declared : FieldKind) :
    FieldValue → FactSet → Walk FactSet
  | .scalar s, facts => do addFact path (← scalarAtom path declared s) facts
  | .message name fields, facts =>
    if declared ≠ .message then throw (.kindMismatch path declared .message)
    else if name = timestampName then do addFact path (← timestampAtom path fields) facts
    else fieldsFacts policy name path fields facts

def elementsFacts (policy : UnsupportedFields) (path : String) :
    List FieldValue → Walk (List FactSet)
  | [] => return []
  | value :: values => do
    let first ← valueFacts policy path .message value .empty
    return first :: (← elementsFacts policy path values)

def entriesFacts (policy : UnsupportedFields) (path : String) (kind : FieldKind) :
    List (MapKey × FieldValue) → FactSet → Walk FactSet
  | [], facts => return facts
  | (key, value) :: entries, facts => do
    let facts ← valueFacts policy (path ++ "." ++ key.text) kind value facts
    entriesFacts policy path kind entries facts

end

def flatten (policy : UnsupportedFields) (m : Message) :
    Except FlattenError FactSet × List DropWarning :=
  let (result, trail) := (fieldsFacts policy m.name "" m.fields .empty).run {}
  (result, trail.warnings)

end Message
end PolicyGate
