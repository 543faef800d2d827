import PolicyGate.Pattern.Unicode.Categories
import PolicyGate.Pattern.Unicode.Properties
import PolicyGate.Pattern.Unicode.Scripts
/-! # Derived sets of characters

Unicode derives many properties from categories, scripts and listed properties. A derivation says how,
and has a set of code points as its value. -/

namespace PolicyGate.Pattern.Unicode

inductive Derivation
  | listed (ranges : List String)
  | categories (names : List String)
  | script (name : String)
  | property (name : String)
  | either (a b : Derivation)
  | without (a b : Derivation)
deriving Repr

structure NamedDerivation where
  names : List String
  derivation : Derivation

def category (name : String) : CodeSet :=
  (NamedRanges.lookup? categories name).getD .empty

def categoriesTogether (names : List String) : CodeSet :=
  .ofRanges (names.flatMap fun n => (category n).ranges)

def Derivation.codes (properties : String → CodeSet) : Derivation → CodeSet
  | listed ranges => .ofLines ranges
  | categories names => categoriesTogether names
  | script name => (NamedRanges.lookup? scripts name).getD .empty
  | property name => properties name
  | either a b => (a.codes properties).union (b.codes properties)
  | without a b => (a.codes properties).difference (b.codes properties)

/-- The set with a name in a table, in which a derivation may name what stands in front of it or is
listed. The last entry of the table comes first here. -/
def derivedProperty? : List NamedDerivation → String → Option CodeSet
  | [], name => NamedRanges.lookup? properties name
  | e :: earlier, name =>
    if e.names.contains name then
      some (e.derivation.codes fun n => (derivedProperty? earlier n).getD .empty)
    else derivedProperty? earlier name

end PolicyGate.Pattern.Unicode
