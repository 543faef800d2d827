import PolicyGate.Data.Value
import PolicyGate.Policy.Basic
import PolicyGate.Policy.Text
/-! # Policies as data

The form in which policies and facts are stored and exchanged. Terms are tagged values; atoms are
records of a type and a value; checks are records whose kind stands beside their parts. -/

namespace PolicyGate

open Time (Instant)
open Data (Value)

def bytesData (bs : Bytes) : Value :=
  .list (bs.map fun b => .integer b.toNat)

def int64OfData? (v : Value) : Option Int64 := do
  let n ← v.integer?
  if Int64.minValue.toInt ≤ n ∧ n ≤ Int64.maxValue.toInt then some (Int64.ofInt n) else none

def byteOfData? (v : Value) : Option UInt8 := do
  let n ← v.integer?
  if 0 ≤ n ∧ n < 256 then some (UInt8.ofNat n.toNat) else none

def idOfData? (v : Value) : Option UInt32 := do
  let n ← v.integer?
  if 0 ≤ n ∧ n.toNat < UInt32.size then some (UInt32.ofNat n.toNat) else none

def bytesOfData? (v : Value) : Option Bytes := do
  (← v.items?).mapM byteOfData?

def listOfData? {α : Type} (item? : Value → Option α) (v : Value) : Option (List α) := do
  (← v.items?).mapM item?

def instantOfData? (v : Value) : Option Instant := do
  Instant.ofLenientText? (← v.text?)

namespace Atom

mutual

def toData : Atom → Value
  | symbol name => tagged "symbol" (.text name)
  | string content => tagged "string" (.text content)
  | integer value => tagged "integer" (.integer value.toInt)
  | bytes value => tagged "bytes" (bytesData value)
  | date value => tagged "date" (.text value.text)
  | list items => tagged "list" (.list (listToData items))

def listToData : List Atom → List Value
  | [] => []
  | a :: as => toData a :: listToData as

def tagged (type : String) (value : Value) : Value :=
  .record [("type", .text type), ("value", value)]

end

def scalarOfData? (type : String) (value : Value) : Option Atom :=
  if type = "symbol" then value.text?.map symbol
  else if type = "string" then value.text?.map string
  else if type = "integer" then (int64OfData? value).map integer
  else if type = "bytes" then (bytesOfData? value).map bytes
  else if type = "date" then (instantOfData? value).map date
  else none

mutual

def ofData? : Value → Option Atom
  | .record members => ofMembers? ((Data.Value.member? "type" members).bind Value.word?) members
  | .list [type, .list vs] =>
    if type.word? = some "list" then (listOfData? vs).map list
    else type.word?.bind fun word => scalarOfData? word (.list vs)
  | .list [type, value] => type.word?.bind fun word => scalarOfData? word value
  | _ => none

def ofMembers? (type : Option String) : List (String × Value) → Option Atom
  | [] => none
  | (name, value) :: members =>
    if name = "value" then
      match type, value with
      | some "list", .list vs => (listOfData? vs).map list
      | some type, value => scalarOfData? type value
      | none, _ => none
    else ofMembers? type members

def listOfData? : List Value → Option (List Atom)
  | [] => some []
  | v :: vs =>
    match ofData? v, listOfData? vs with
    | some a, some as => some (a :: as)
    | _, _ => none

end
end Atom

namespace Fact

def toData (f : Fact) : Value :=
  .record [("name", .text f.name), ("atoms", .list (Atom.listToData f.atoms))]

def ofData? (v : Value) : Option Fact := do
  match ← v.row? ["name", "atoms"] with
  | [some name, some atoms] =>
    return { name := ← name.text?, atoms := ← PolicyGate.listOfData? Atom.ofData? atoms }
  | _ => none

end Fact

def Term.toData : Term → Value
  | var id => .variant "variable" (.integer id.toNat)
  | atom value => .variant "atom" value.toData

def Term.ofData? (v : Value) : Option Term := do
  match ← v.form? with
  | ("variable", payload) => return .var (← idOfData? payload)
  | ("atom", payload) => return .atom (← Atom.ofData? payload)
  | _ => none

def Predicate.toData (p : Predicate) : Value :=
  .record [("name", .text p.name), ("terms", .list (p.terms.map Term.toData))]

def Predicate.ofData? (v : Value) : Option Predicate := do
  match ← v.row? ["name", "terms"] with
  | [some name, some terms] =>
    return { name := ← name.text?, terms := ← listOfData? Term.ofData? terms }
  | _ => none

def IntegerTest.word : IntegerTest → String
  | less => "less"
  | greater => "greater"
  | lessOrEqual => "less_or_equal"
  | greaterOrEqual => "greater_or_equal"
  | equal => "equal"

def IntegerTest.ofData? (v : Value) : Option IntegerTest := do
  match ← v.word? with
  | "less" => return .less
  | "greater" => return .greater
  | "less_or_equal" => return .lessOrEqual
  | "greater_or_equal" => return .greaterOrEqual
  | "equal" => return .equal
  | _ => none

def StringTest.word : StringTest → String
  | equal => "equal"
  | startsWith => "prefix"
  | endsWith => "suffix"
  | fits => "regex"

def StringTest.ofData? (v : Value) : Option StringTest := do
  match ← v.word? with
  | "equal" => return .equal
  | "prefix" => return .startsWith
  | "suffix" => return .endsWith
  | "regex" => return .fits
  | _ => none

def DateTest.word : DateTest → String
  | before => "before"
  | after => "after"

def DateTest.ofData? (v : Value) : Option DateTest := do
  match ← v.word? with
  | "before" => return .before
  | "after" => return .after
  | _ => none

namespace Check

def testData (kind test : String) (value : Value) : Value :=
  .record [("kind", .text kind), ("op", .text test), ("value", value)]

def setData (kind : String) (members : List Value) (negated : Bool) : Value :=
  .record [("kind", .text kind), ("set", .list members), ("negated", .bool negated)]

def toData : Check → Value
  | integer test value => testData "integer" test.word (.integer value.toInt)
  | integerIn set negated =>
    setData "integer_in" (set.toList.map fun i => .integer i.toInt) negated
  | string test value => testData "string" test.word (.text value)
  | stringIn set negated => setData "string_in" (set.toList.map .text) negated
  | date test value => testData "date" test.word (.text value.text)
  | bytesEqual value => .record [("kind", .text "bytes_equal"), ("value", bytesData value)]
  | bytesIn set negated => setData "bytes_in" (set.toList.map bytesData) negated
  | symbolIn set negated => setData "symbol_in" (set.toList.map .text) negated

/-- The kind of a check, and the value that holds its parts. -/
def kind? : Value → Option (String × Value)
  | .record members => do return (← (← Value.member? "kind" members).text?, .record members)
  | .list (kind :: items) => do return (← kind.text?, .list items)
  | _ => none

def testOfData? {α β : Type} (test? : Value → Option α) (value? : Value → Option β) (v : Value) :
    Option (α × β) := do
  match ← v.row? ["op", "value"] with
  | [some test, some value] => return (← test? test, ← value? value)
  | _ => none

def setOfData? {α : Type} (member? : Value → Option α) (v : Value) : Option (List α × Bool) := do
  match ← v.row? ["set", "negated"] with
  | [some members, some negated] => return (← listOfData? member? members, ← negated.bool?)
  | _ => none

def ofData? (v : Value) : Option Check := do
  match ← kind? v with
  | ("integer", parts) =>
    let (test, value) ← testOfData? IntegerTest.ofData? int64OfData? parts
    return .integer test value
  | ("integer_in", parts) =>
    let (members, negated) ← setOfData? int64OfData? parts
    return .integerIn (.ofList members) negated
  | ("string", parts) =>
    let (test, value) ← testOfData? StringTest.ofData? Value.text? parts
    return .string test value
  | ("string_in", parts) =>
    let (members, negated) ← setOfData? Value.text? parts
    return .stringIn (.ofList members) negated
  | ("date", parts) =>
    let (test, value) ← testOfData? DateTest.ofData? instantOfData? parts
    return .date test value
  | ("bytes_equal", parts) =>
    match ← parts.row? ["value"] with
    | [some value] => return .bytesEqual (← bytesOfData? value)
    | _ => none
  | ("bytes_in", parts) =>
    let (members, negated) ← setOfData? bytesOfData? parts
    return .bytesIn (.ofList members) negated
  | ("symbol_in", parts) =>
    let (members, negated) ← setOfData? Value.text? parts
    return .symbolIn (.ofList members) negated
  | _ => none

end Check

def Constraint.toData (c : Constraint) : Value :=
  .record [("variable", .integer c.subject.toNat), ("check", c.check.toData)]

def Constraint.ofData? (v : Value) : Option Constraint := do
  match ← v.row? ["variable", "check"] with
  | [some subject, some check] =>
    return { subject := ← idOfData? subject, check := ← Check.ofData? check }
  | _ => none

def Rule.toData (r : Rule) : Value :=
  .record [("head", r.head.toData), ("body", .list (r.body.map Predicate.toData)),
    ("constraints", .list (r.constraints.map Constraint.toData))]

def Rule.ofData? (v : Value) : Option Rule := do
  match ← v.row? ["head", "body", "constraints"] with
  | [some head, some body, some constraints] =>
    return { head := ← Predicate.ofData? head, body := ← listOfData? Predicate.ofData? body
             constraints := ← listOfData? Constraint.ofData? constraints }
  | _ => none

def Caveat.toData (c : Caveat) : Value :=
  .record [("queries", .list (c.queries.map Rule.toData))]

def Caveat.ofData? (v : Value) : Option Caveat := do
  match ← v.row? ["queries"] with
  | [some queries] => return { queries := ← listOfData? Rule.ofData? queries }
  | _ => none

def Policy.toData (p : Policy) : Value :=
  .record [("name", .text p.name), ("rules", .list (p.rules.map Rule.toData)),
    ("caveats", .list (p.caveats.map Caveat.toData))]

def Policy.ofData? (v : Value) : Option Policy := do
  match ← v.row? ["name", "rules", "caveats"] with
  | [some name, some rules, some caveats] =>
    return { name := ← name.text?, rules := ← listOfData? Rule.ofData? rules
             caveats := ← listOfData? Caveat.ofData? caveats }
  | _ => none

end PolicyGate
