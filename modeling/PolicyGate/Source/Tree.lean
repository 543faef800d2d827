import PolicyGate.Text.Bytes
/-! # The tree of a policy document

The tree keeps what is needed to write a document again: variable names as written, and comments with
the construct that follows them. -/

namespace PolicyGate.Source

inductive Literal
  | symbol (name : String)
  | string (content : String)
  | integer (value : Int64)
  | bytes (value : Bytes)
deriving DecidableEq, Repr

/-- A term of a predicate: a variable, named as written without its `$`, or a literal. -/
inductive Term
  | var (name : String)
  | literal (value : Literal)
deriving DecidableEq, Repr

structure Predicate where
  name : String
  terms : List Term
deriving DecidableEq, Repr

inductive Comparison
  | less
  | greater
  | lessOrEqual
  | greaterOrEqual
  | equal
deriving DecidableEq, Repr

def Comparison.text : Comparison → String
  | less => "<"
  | greater => ">"
  | lessOrEqual => "<="
  | greaterOrEqual => ">="
  | equal => "=="

inductive StringTest
  | startsWith
  | endsWith
  | fits
deriving DecidableEq, Repr

def StringTest.text : StringTest → String
  | startsWith => "prefix"
  | endsWith => "suffix"
  | fits => "match"

def StringTest.ofName? (name : String) : Option StringTest :=
  if name = "prefix" then some .startsWith
  else if name = "suffix" then some .endsWith
  else if name = "match" then some .fits
  else none

inductive Constraint
  /-- A comparison, as in `$v <= 3`. -/
  | compare (subject : String) (op : Comparison) (value : Literal)
  /-- Membership in a set of at least one literal, as in `$v not in [1, 2]`. -/
  | member (subject : String) (negated : Bool) (first : Literal) (others : List Literal)
  /-- A test of a string, as in `prefix($v, "a")`. -/
  | test (function : StringTest) (subject : String) (value : String)
deriving DecidableEq, Repr

structure Rule where
  comments : List String
  head : Predicate
  body : List Predicate
  constraints : List Constraint
deriving DecidableEq, Repr

/-- A caveat: one or more queries of which one has to succeed. -/
structure Caveat where
  comments : List String
  queries : List Rule
deriving DecidableEq, Repr

/-- The contents of a pair of braces, and the comments before the closing one. -/
structure Block (α : Type) where
  items : List α
  trailingComments : List String
deriving DecidableEq, Repr

/-- A policy; a block that was not written is `none`. -/
structure Policy where
  comments : List String
  name : String
  offset : Nat
  rules : Option (Block Rule)
  caveats : Option (Block Caveat)
deriving DecidableEq, Repr

structure Document where
  policies : List Policy
  trailingComments : List String
deriving DecidableEq, Repr

end PolicyGate.Source
