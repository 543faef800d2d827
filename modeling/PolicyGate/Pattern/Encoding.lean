import PolicyGate.Pattern.CodeSet
import Std.Data.HashMap
/-! # Classes of characters in UTF-8

A class of characters is matched byte by byte. It falls apart into sequences of byte ranges, and the
sequences make an automaton. What counts here is how large the automata are: read forwards, equal ends
of sequences are shared; read backwards, equal beginnings are. -/

namespace PolicyGate.Pattern

/-- Ranges of bytes, one for each byte of an encoded character. -/
abbrev ByteSequence := List (Nat × Nat)

def anyTails (count : Nat) : ByteSequence :=
  List.replicate count (0x80, 0xBF)

/-- The sequences for the numbers from `low` to `high`, whose first byte counts from `lead` and is
followed by a number of further bytes with six bits each. -/
def sequencesFrom (lead : Nat) : Nat → Nat → Nat → List ByteSequence
  | 0, low, high => [[(lead + low, lead + high)]]
  | tails + 1, low, high =>
    let size := 1 <<< (6 * (tails + 1))
    let first := low / size
    let last := high / size
    let behind (head low high : Nat) : List ByteSequence :=
      (sequencesFrom 0x80 tails low high).map ((lead + head, lead + head) :: ·)
    if first = last then behind first (low % size) (high % size)
    else
      let beginsWhole := low % size = 0
      let endsWhole := high % size = size - 1
      let start := if beginsWhole then first else first + 1
      let stop := if endsWhole then last + 1 else last
      (if beginsWhole then [] else behind first (low % size) (size - 1)) ++
        (if start < stop then [(lead + start, lead + (stop - 1)) :: anyTails (tails + 1)] else []) ++
        (if endsWhole then [] else behind last 0 (high % size))

/-- The code points with encodings of one length: the first and the last, the first byte of code point
zero in this length, and the number of further bytes. Surrogates have no encoding. -/
def encodingLengths : List (Nat × Nat × Nat × Nat) :=
  [(0, 0x7F, 0, 0), (0x80, 0x7FF, 0xC0, 1), (0x800, 0xD7FF, 0xE0, 2), (0xE000, 0xFFFF, 0xE0, 2),
   (0x10000, 0x10FFFF, 0xF0, 3)]

def sequencesOfRange (low high : Nat) : List ByteSequence :=
  encodingLengths.flatMap fun (first, last, lead, tails) =>
    if max low first ≤ min high last then sequencesFrom lead tails (max low first) (min high last)
    else []

def sequencesOf (s : CodeSet) : List ByteSequence :=
  s.ranges.flatMap fun (low, high) => sequencesOfRange low high

/-- Sequences that begin with the same range, side by side: the range, and what follows it in each. -/
def byFirst : List ByteSequence → List ((Nat × Nat) × List ByteSequence)
  | [] => []
  | [] :: ss => byFirst ss
  | (r :: s) :: ss =>
    match byFirst ss with
    | (r', group) :: groups =>
      if r = r' then (r, s :: group) :: groups else (r, [s]) :: (r', group) :: groups
    | [] => [(r, [s])]

/-- A state of an automaton: for each range of bytes, the state that follows. State zero is the end. -/
abbrev StateKey := List ((Nat × Nat) × Nat)

/-- The states of an automaton, equal ones only once, and how much room they take. -/
structure SharedStates where
  known : Std.HashMap StateKey Nat := {}
  room : Nat := 0

/-- The room of a state, of one of its transitions, and of one of its plain successors. -/
def stateRoom : Nat := 32
def transitionRoom : Nat := 8
def successorRoom : Nat := 4

def SharedStates.add (t : SharedStates) (key : StateKey) : Nat × SharedStates :=
  match t.known[key]? with
  | some n => (n, t)
  | none =>
    let n := t.known.size + 1
    (n, ⟨t.known.insert key n, t.room + stateRoom + transitionRoom * key.length⟩)

def SharedStates.addAll : (length : Nat) → List ByteSequence → SharedStates → Nat × SharedStates
  | 0, _, t => (0, t)
  | length + 1, ss, t =>
    match byFirst ss with
    | [] => (0, t)
    | groups =>
      let (key, t) := groups.foldl (fun (key, t) (r, rest) =>
        let (n, t) := addAll length rest t
        ((r, n) :: key, t)) (([] : StateKey), t)
      t.add key.reverse

def beginnings : (length : Nat) → List ByteSequence → Nat
  | 0, _ => 0
  | length + 1, ss =>
    (byFirst ss).foldl (fun n (_, rest) => n + 1 + beginnings length rest) 0

def longestEncoding : Nat := 4

/-- The room of the automaton of a class. One that holds only ASCII characters or bytes is a single
state with a transition for each range. -/
def CodeSet.room (s : CodeSet) (backwards : Bool) : Nat :=
  if s.isBelow 128 then 2 * stateRoom + transitionRoom * s.ranges.length
  else
    let ss := sequencesOf s
    if backwards then
      2 * stateRoom + successorRoom * ss.length + stateRoom * beginnings longestEncoding ss
    else stateRoom + (SharedStates.addAll longestEncoding ss {}).2.room

end PolicyGate.Pattern
