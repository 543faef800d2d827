import PolicyGate.Pattern.Basic
import PolicyGate.Policy.Basic
import PolicyGate.Source.Tree
import PolicyGate.Text.Reasons
/-! # From the tree to policies

A tree whose variables are numbers becomes a policy. A constraint has to join an operator with a literal
it applies to:

| Constraint                      | Literal   | Check                    |
|---------------------------------|-----------|--------------------------|
| `<`, `>`, `<=`, `>=`, `==`      | integer   | comparison of integers   |
| `==`                            | string    | equality of strings      |
| `<=`, `>=`                      | string    | date before or after     |
| `==`                            | bytes     | equality of bytes        |
| `in`, `not in`                  | one kind  | membership in a set      |
| `prefix`, `suffix`, `match`     | string    | test of a string         |

Each variable of the head and of the constraints has to occur in the body. -/

namespace PolicyGate

open Time (Instant)

inductive RuleFault
  | unresolvedVariable (name : String)
  | variableOutOfRange (name : String)
  | operatorMismatch (op : Source.Comparison) (kind : String)
  | notADate (text : String)
  | mixedSet (first other : String)
  | invalidPattern (pattern : String)
  | unboundHead (id : UInt32)
  | unboundConstraint (id : UInt32)
deriving DecidableEq, Repr

def RuleFault.message (fault : RuleFault) (reasons : Reasons := {}) : String :=
  match fault with
  | unresolvedVariable name => "unresolved variable $" ++ name
  | variableOutOfRange name => "variable $" ++ name ++ " is out of range"
  | operatorMismatch op kind =>
    "operator " ++ op.text ++ " cannot be applied to a " ++ kind ++ " literal"
  | notADate text => "\"" ++ text ++ "\" is not an RFC 3339 date: " ++ reasons.date text
  | mixedSet first other => "set mixes " ++ first ++ " and " ++ other ++ " literals"
  | invalidPattern pattern => "invalid regular expression: " ++ reasons.pattern pattern
  | unboundHead id => "head variable $" ++ toString id.toNat ++ " does not appear in the rule body"
  | unboundConstraint id =>
    "constraint variable $" ++ toString id.toNat ++ " does not appear in the rule body"

/-- A fault and the rule or caveat, counted from one, that has it. -/
inductive PolicyFault
  | inRule (index : Nat) (fault : RuleFault)
  | inCaveat (index : Nat) (fault : RuleFault)
deriving DecidableEq, Repr

def PolicyFault.message (fault : PolicyFault) (reasons : Reasons := {}) : String :=
  match fault with
  | inRule index fault => "rule " ++ toString index ++ ": " ++ fault.message reasons
  | inCaveat index fault => "caveat " ++ toString index ++ ": " ++ fault.message reasons

namespace Source

def varId (name : String) : Except RuleFault UInt32 :=
  if name.toList.all Char.isDigit then
    match Text.natural? name.toList with
    | some n => if n < UInt32.size then .ok (UInt32.ofNat n) else .error (.variableOutOfRange name)
    | none => .error (.variableOutOfRange name)
  else .error (.unresolvedVariable name)

def Literal.kind : Literal → String
  | symbol _ => "symbol"
  | string _ => "string"
  | integer _ => "integer"
  | bytes _ => "bytes"

def Literal.atom : Literal → Atom
  | symbol name => .symbol name
  | string content => .string content
  | integer value => .integer value
  | bytes value => .bytes value

def Term.lower : Term → Except RuleFault PolicyGate.Term
  | var name => (varId name).map .var
  | literal value => .ok (.atom value.atom)

def Predicate.lower (p : Predicate) : Except RuleFault PolicyGate.Predicate := do
  return { name := p.name, terms := ← p.terms.mapM Term.lower }

def Comparison.integerTest : Comparison → IntegerTest
  | less => .less
  | greater => .greater
  | lessOrEqual => .lessOrEqual
  | greaterOrEqual => .greaterOrEqual
  | equal => .equal

def dateCheck (test : DateTest) (text : String) : Except RuleFault Check :=
  match Instant.ofText? text with
  | some date => .ok (.date test date)
  | none => .error (.notADate text)

def comparisonCheck : Comparison → Literal → Except RuleFault Check
  | op, .integer value => .ok (.integer op.integerTest value)
  | .equal, .string content => .ok (.string .equal content)
  | .lessOrEqual, .string content => dateCheck .before content
  | .greaterOrEqual, .string content => dateCheck .after content
  | .equal, .bytes value => .ok (.bytesEqual value)
  | op, other => .error (.operatorMismatch op other.kind)

def setMembers {α : Type} (first : Literal) (pick : Literal → Option α) (members : List Literal) :
    Except RuleFault (List α) :=
  members.mapM fun l =>
    match pick l with
    | some x => .ok x
    | none => .error (.mixedSet first.kind l.kind)

def Literal.string? : Literal → Option String
  | string content => some content
  | _ => none

def Literal.symbol? : Literal → Option String
  | symbol name => some name
  | _ => none

def Literal.integer? : Literal → Option Int64
  | integer value => some value
  | _ => none

def Literal.bytes? : Literal → Option Bytes
  | bytes value => some value
  | _ => none

/-- The check of membership in a set; the first literal gives the kind of all. -/
def membershipCheck (negated : Bool) (first : Literal) (others : List Literal) :
    Except RuleFault Check := do
  let members := first :: others
  match first with
  | .integer _ => return .integerIn (.ofList (← setMembers first Literal.integer? members)) negated
  | .string _ => return .stringIn (.ofList (← setMembers first Literal.string? members)) negated
  | .symbol _ => return .symbolIn (.ofList (← setMembers first Literal.symbol? members)) negated
  | .bytes _ => return .bytesIn (.ofList (← setMembers first Literal.bytes? members)) negated

def stringTestCheck (function : StringTest) (value : String) : Except RuleFault Check :=
  match function with
  | .startsWith => .ok (.string .startsWith value)
  | .endsWith => .ok (.string .endsWith value)
  | .fits => if isPattern value then .ok (.string .fits value) else .error (.invalidPattern value)

/-- Lowers a constraint: first its variable, then its check. -/
def Constraint.lower : Constraint → Except RuleFault PolicyGate.Constraint
  | compare subject op value => do
    return { subject := ← varId subject, check := ← comparisonCheck op value }
  | member subject negated first others => do
    return { subject := ← varId subject, check := ← membershipCheck negated first others }
  | test function subject value => do
    return { subject := ← varId subject, check := ← stringTestCheck function value }

def Rule.lower (r : Rule) : Except RuleFault PolicyGate.Rule := do
  let head ← r.head.lower
  let body ← r.body.mapM Predicate.lower
  let constraints ← r.constraints.mapM Constraint.lower
  let bound := body.flatMap Predicate.vars
  match head.vars.find? fun v => !bound.contains v with
  | some v => throw (.unboundHead v)
  | none =>
    match constraints.find? fun c => !bound.contains c.subject with
    | some c => throw (.unboundConstraint c.subject)
    | none => return { head, body, constraints }

def Caveat.lower (c : Caveat) : Except RuleFault PolicyGate.Caveat := do
  return { queries := ← c.queries.mapM Rule.lower }

/-- Lowers items in order, and tells the index of the first one that fails. -/
def lowerItems {α β : Type} (lower : α → Except RuleFault β) (mark : Nat → RuleFault → PolicyFault)
    (items : List α) : Except PolicyFault (List β) :=
  items.zipIdx.mapM fun (item, i) => (lower item).mapError (mark (i + 1))

def blockItems {α : Type} (b : Option (Block α)) : List α :=
  match b with
  | some b => b.items
  | none => []

def Policy.lower (p : Policy) : Except PolicyFault PolicyGate.Policy := do
  let rules ← lowerItems Rule.lower .inRule (blockItems p.rules)
  let caveats ← lowerItems Caveat.lower .inCaveat (blockItems p.caveats)
  return { name := p.name, rules, caveats }

end Source
end PolicyGate
