import PolicyGate.Policy.Basic
/-! # Policies as text

Rules and caveats in the syntax in which they are written, each on one line. -/

namespace PolicyGate

def varText (id : UInt32) : String :=
  "$" ++ toString id.toNat

def Term.text : Term → String
  | var id => varText id
  | atom value => value.text

def Predicate.text (p : Predicate) : String :=
  p.name ++ "(" ++ String.intercalate ", " (p.terms.map Term.text) ++ ")"

def IntegerTest.text : IntegerTest → String
  | less => "<"
  | greater => ">"
  | lessOrEqual => "<="
  | greaterOrEqual => ">="
  | equal => "=="

def DateTest.text : DateTest → String
  | before => "<="
  | after => ">="

def membershipText (subject : UInt32) (negated : Bool) (members : List String) : String :=
  varText subject ++ (if negated then " not in [" else " in [") ++
    String.intercalate ", " members ++ "]"

def stringTestText (name : String) (subject : UInt32) (value : String) : String :=
  name ++ "(" ++ varText subject ++ ", " ++ Text.Quoted.text value ++ ")"

def Constraint.text (c : Constraint) : String :=
  match c.check with
  | .integer test value => varText c.subject ++ " " ++ test.text ++ " " ++ toString value.toInt
  | .integerIn set negated =>
    membershipText c.subject negated (set.toList.map fun i => toString i.toInt)
  | .string .equal value => varText c.subject ++ " == " ++ Text.Quoted.text value
  | .string .startsWith value => stringTestText "prefix" c.subject value
  | .string .endsWith value => stringTestText "suffix" c.subject value
  | .string .fits value => stringTestText "match" c.subject value
  | .stringIn set negated => membershipText c.subject negated (set.toList.map Text.Quoted.text)
  | .date test value =>
    varText c.subject ++ " " ++ test.text ++ " " ++ Text.Quoted.text value.text
  | .bytesEqual value => varText c.subject ++ " == hex:" ++ Text.Hex.text value
  | .bytesIn set negated =>
    membershipText c.subject negated (set.toList.map fun b => "hex:" ++ Text.Hex.text b)
  | .symbolIn set negated => membershipText c.subject negated (set.toList.map ("#" ++ ·))

def Rule.text (r : Rule) : String :=
  "*" ++ r.head.text ++ " <- " ++ String.intercalate ", " (r.body.map Predicate.text) ++
    if r.constraints = [] then ""
    else " @ " ++ String.intercalate ", " (r.constraints.map Constraint.text)

def Caveat.text (c : Caveat) : String :=
  "[" ++ String.intercalate " || " (c.queries.map Rule.text) ++ "]"

end PolicyGate
