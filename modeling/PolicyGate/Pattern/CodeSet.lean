import PolicyGate.Text.Hex
/-! # Sets of code points

A set of code points or of bytes, kept as ranges in rising order that lie apart from each other. -/

namespace PolicyGate.Pattern

/-- A set of numbers, as ranges with both ends. -/
structure CodeSet where
  ranges : List (Nat × Nat)
deriving DecidableEq, Repr

namespace CodeSet

def empty : CodeSet := ⟨[]⟩

def single (n : Nat) : CodeSet := ⟨[(n, n)]⟩

def range (low high : Nat) : CodeSet :=
  if low ≤ high then ⟨[(low, high)]⟩ else empty

/-- Joins a range with those behind it that touch it, in a list that rises by the lower ends. -/
def joinedFrom (low high : Nat) : List (Nat × Nat) → List (Nat × Nat)
  | [] => [(low, high)]
  | (low', high') :: rs =>
    if low' ≤ high + 1 then joinedFrom low (max high high') rs
    else (low, high) :: joinedFrom low' high' rs

def joined : List (Nat × Nat) → List (Nat × Nat)
  | [] => []
  | (low, high) :: rs => joinedFrom low high rs

def ofRanges (rs : List (Nat × Nat)) : CodeSet :=
  ⟨joined (rs.mergeSort fun a b => decide (a.1 ≤ b.1))⟩

def union (a b : CodeSet) : CodeSet :=
  if a.ranges = [] then b else if b.ranges = [] then a else ofRanges (a.ranges ++ b.ranges)

/-- The ranges between the given ones, from a number on and up to a limit. -/
def gaps (limit : Nat) : Nat → List (Nat × Nat) → List (Nat × Nat)
  | start, [] => if start ≤ limit then [(start, limit)] else []
  | start, (low, high) :: rs =>
    if start < low then (start, low - 1) :: gaps limit (high + 1) rs else gaps limit (high + 1) rs

def complement (limit : Nat) (a : CodeSet) : CodeSet :=
  ⟨gaps limit 0 a.ranges⟩

def common : List (Nat × Nat) → List (Nat × Nat) → List (Nat × Nat)
  | [], _ => []
  | _, [] => []
  | (low, high) :: rs, (low', high') :: rs' =>
    let rest :=
      if high < high' then common rs ((low', high') :: rs') else common ((low, high) :: rs) rs'
    if max low low' ≤ min high high' then (max low low', min high high') :: rest else rest
termination_by rs rs' => rs.length + rs'.length

def intersection (a b : CodeSet) : CodeSet :=
  ⟨common a.ranges b.ranges⟩

def lastCode : Nat := 0x10FFFF

def difference (a b : CodeSet) : CodeSet :=
  a.intersection (b.complement lastCode)

def symmetricDifference (a b : CodeSet) : CodeSet :=
  (a.difference b).union (b.difference a)

def contains (a : CodeSet) (n : Nat) : Bool :=
  a.ranges.any fun (low, high) => low ≤ n && n ≤ high

def isBelow (a : CodeSet) (limit : Nat) : Bool :=
  a.ranges.all fun (_, high) => high < limit

def only? (a : CodeSet) : Option Nat :=
  match a.ranges with
  | [(low, high)] => if low = high then some low else none
  | _ => none

def ascii (test : Char → Bool) : CodeSet :=
  ofRanges (((List.range 128).filter fun n => test (Char.ofNat n)).map fun n => (n, n))

/-- The numbers that one item such as `41`, `41-5A` or `101-135/2` writes: hexadecimal ends, and a step
where not all between them are meant. -/
def ofItem (item : String) : List (Nat × Nat) :=
  let number (s : String) := (Text.Hex.value? s.toList).getD 0
  match item.splitOn "-" with
  | [one] => [(number one, number one)]
  | low :: more =>
    match (String.join more).splitOn "/" with
    | [high, step] =>
      let step := number step
      (List.range ((number high - number low) / step + 1)).map fun k =>
        (number low + k * step, number low + k * step)
    | high => [(number low, number (String.join high))]
  | [] => []

def ofLines (lines : List String) : CodeSet :=
  ⟨joined (lines.flatMap fun line => (line.splitOn " ").flatMap ofItem)⟩

end CodeSet

/-- A set of code points under several names, its members in writing. -/
structure NamedRanges where
  names : List String
  ranges : List String

def NamedRanges.lookup? (table : List NamedRanges) (name : String) : Option CodeSet :=
  (table.find? fun e => e.names.contains name).map fun e => CodeSet.ofLines e.ranges

def NamedRanges.together (table : List NamedRanges) : CodeSet :=
  .ofRanges (table.flatMap fun e => (CodeSet.ofLines e.ranges).ranges)

end PolicyGate.Pattern
