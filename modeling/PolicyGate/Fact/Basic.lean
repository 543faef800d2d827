import PolicyGate.Text.Hex
import PolicyGate.Text.Quoted
import PolicyGate.Time.Rfc3339
/-! # Atoms and facts

Atoms are the values that the rule engine knows; a fact is a name with atoms. The engine has no truth
values: they are carried as the integers 0 and 1. -/

namespace PolicyGate

open Time (Instant)

inductive Atom
  | symbol (name : String)
  | string (content : String)
  | integer (value : Int64)
  | bytes (value : Bytes)
  | date (value : Instant)
  | list (items : List Atom)
deriving Repr

namespace Atom

mutual

def decEq : (a b : Atom) → Decidable (a = b)
  | symbol a, symbol b => decidable_of_iff (a = b) (by simp)
  | string a, string b => decidable_of_iff (a = b) (by simp)
  | integer a, integer b => decidable_of_iff (a = b) (by simp)
  | bytes a, bytes b => decidable_of_iff (a = b) (by simp)
  | date a, date b => decidable_of_iff (a = b) (by simp)
  | list as, list bs =>
    match decEqList as bs with
    | isTrue h => isTrue (by rw [h])
    | isFalse h => isFalse (by simpa using h)
  | symbol _, string _ | symbol _, integer _ | symbol _, bytes _ | symbol _, date _
  | symbol _, list _ | string _, symbol _ | string _, integer _ | string _, bytes _
  | string _, date _ | string _, list _ | integer _, symbol _ | integer _, string _
  | integer _, bytes _ | integer _, date _ | integer _, list _ | bytes _, symbol _
  | bytes _, string _ | bytes _, integer _ | bytes _, date _ | bytes _, list _
  | date _, symbol _ | date _, string _ | date _, integer _ | date _, bytes _ | date _, list _
  | list _, symbol _ | list _, string _ | list _, integer _ | list _, bytes _
  | list _, date _ => isFalse (by simp)

def decEqList : (as bs : List Atom) → Decidable (as = bs)
  | [], [] => isTrue rfl
  | [], _ :: _ => isFalse (by simp)
  | _ :: _, [] => isFalse (by simp)
  | a :: as, b :: bs =>
    match decEq a b, decEqList as bs with
    | isTrue h, isTrue hs => isTrue (by rw [h, hs])
    | isFalse h, _ => isFalse (by simp [h])
    | _, isFalse hs => isFalse (by simp [hs])

end

instance : DecidableEq Atom := decEq

instance : Inhabited Atom := ⟨.list []⟩

def ofBool (b : Bool) : Atom :=
  .integer (if b then 1 else 0)

/-- The truth value that an atom carries: only the integers 0 and 1 carry one. -/
def toBool? : Atom → Option Bool
  | integer value => if value = 0 then some false else if value = 1 then some true else none
  | _ => none

def kind : Atom → String
  | symbol _ => "symbol"
  | string _ => "string"
  | integer _ => "integer"
  | bytes _ => "bytes"
  | date _ => "date"
  | list _ => "list"

mutual

def text : Atom → String
  | symbol name => "#" ++ name
  | string content => Text.Quoted.text content
  | integer value => toString value.toInt
  | bytes value => "hex:" ++ Text.Hex.text value
  | date value => value.text
  | list items => "[" ++ String.intercalate ", " (texts items) ++ "]"

def texts : List Atom → List String
  | [] => []
  | a :: as => text a :: texts as

end
end Atom

structure Fact where
  name : String
  atoms : List Atom
deriving DecidableEq, Repr

namespace Fact

/-- The first term of every fact about a call. -/
def ambient : Atom := .symbol "ambient"

def ofMethod (method : String) : Fact where
  name := "method"
  atoms := [ambient, .string method]

def ofArgument (path : String) (value : Atom) : Fact where
  name := "arg"
  atoms := [ambient, .string path, value]

def ofUser (principal : String) : Fact where
  name := "user"
  atoms := [ambient, .string principal]

def text (f : Fact) : String :=
  f.name ++ "(" ++ String.intercalate ", " (Atom.texts f.atoms) ++ ")"

end Fact
end PolicyGate
