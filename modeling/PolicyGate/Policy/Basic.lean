import PolicyGate.Fact.Basic
/-! # Policies

The compiled form of policies that the rule engine takes: rules derive facts from facts, and a caveat
holds when one of its queries has a result. Variables are numbers, shared by the parts of one rule. -/

namespace PolicyGate

open Time (Instant)

/-- A finite set, held as its members in ascending order. -/
structure OrderedSet (α : Type) [LT α] where
  toList : List α
  ascending : toList.Pairwise (· < ·) := by simp
deriving Repr

namespace OrderedSet

variable {α : Type} [LT α]

instance [DecidableEq α] : DecidableEq (OrderedSet α) := fun a b =>
  decidable_of_iff (a.toList = b.toList) (by cases a; cases b; simp)

/-- Puts a member into its place in an ascending list. A member that is neither smaller nor greater
than one of the list is already there. -/
def insertInto [DecidableLT α] (x : α) : List α → List α
  | [] => [x]
  | y :: ys => if x < y then x :: y :: ys else if y < x then y :: insertInto x ys else y :: ys

theorem mem_insertInto [DecidableLT α] {x y : α} {ys : List α} (h : y ∈ insertInto x ys) :
    y = x ∨ y ∈ ys := by
  induction ys with
  | nil => simpa [insertInto] using h
  | cons z zs ih =>
    unfold insertInto at h
    split at h
    · simpa using h
    split at h
    · rcases List.mem_cons.1 h with h | h
      · exact .inr (h ▸ List.mem_cons_self)
      · exact (ih h).imp_right (List.mem_cons_of_mem z)
    · exact .inr h

theorem pairwise_insertInto [DecidableLT α] [Trans (α := α) (· < ·) (· < ·) (· < ·)] {x : α}
    {ys : List α} (h : ys.Pairwise (· < ·)) : (insertInto x ys).Pairwise (· < ·) := by
  induction ys with
  | nil => simp [insertInto]
  | cons y ys ih =>
    obtain ⟨hy, hys⟩ := List.pairwise_cons.1 h
    unfold insertInto
    split
    · next hxy =>
      refine List.pairwise_cons.2 ⟨?_, h⟩
      intro z hz
      rcases List.mem_cons.1 hz with rfl | hz
      · exact hxy
      · exact Trans.trans hxy (hy z hz)
    split
    · next hyx =>
      refine List.pairwise_cons.2 ⟨?_, ih hys⟩
      intro z hz
      rcases mem_insertInto hz with rfl | hz
      · exact hyx
      · exact hy z hz
    · exact h

instance : Trans (α := String) (β := String) (γ := String) (· < ·) (· < ·) (· < ·) where
  trans := String.lt_trans

instance : Trans (α := Int64) (β := Int64) (γ := Int64) (· < ·) (· < ·) (· < ·) where
  trans := Int64.lt_trans

instance : Trans (α := UInt8) (β := UInt8) (γ := UInt8) (· < ·) (· < ·) (· < ·) where
  trans := UInt8.lt_trans

def ofList [DecidableLT α] [Trans (α := α) (· < ·) (· < ·) (· < ·)] : List α → OrderedSet α
  | [] => ⟨[], .nil⟩
  | x :: xs => ⟨insertInto x (ofList xs).toList, pairwise_insertInto (ofList xs).ascending⟩

end OrderedSet

inductive Term
  | var (id : UInt32)
  | atom (value : Atom)
deriving DecidableEq, Repr

structure Predicate where
  name : String
  terms : List Term
deriving DecidableEq, Repr

inductive IntegerTest
  | less
  | greater
  | lessOrEqual
  | greaterOrEqual
  | equal
deriving DecidableEq, Repr

inductive StringTest
  | equal
  | startsWith
  | endsWith
  | fits
deriving DecidableEq, Repr

/-- How dates are compared; both tests admit the date itself. -/
inductive DateTest
  | before
  | after
deriving DecidableEq, Repr

inductive Check
  | integer (test : IntegerTest) (value : Int64)
  | integerIn (set : OrderedSet Int64) (negated : Bool)
  | string (test : StringTest) (value : String)
  | stringIn (set : OrderedSet String) (negated : Bool)
  | date (test : DateTest) (value : Instant)
  | bytesEqual (value : Bytes)
  | bytesIn (set : OrderedSet Bytes) (negated : Bool)
  | symbolIn (set : OrderedSet String) (negated : Bool)
deriving DecidableEq, Repr

structure Constraint where
  subject : UInt32
  check : Check
deriving DecidableEq, Repr

/-- A rule: where the body and the constraints hold, the head is a fact. -/
structure Rule where
  head : Predicate
  body : List Predicate
  constraints : List Constraint
deriving DecidableEq, Repr

/-- A caveat holds when one of its queries has a result. -/
structure Caveat where
  queries : List Rule
deriving DecidableEq, Repr

structure Policy where
  name : String
  rules : List Rule
  caveats : List Caveat
deriving DecidableEq, Repr

def Predicate.vars (p : Predicate) : List UInt32 :=
  p.terms.filterMap fun
    | .var id => some id
    | .atom _ => none

end PolicyGate
