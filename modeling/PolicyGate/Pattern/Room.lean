import PolicyGate.Pattern.Encoding
import PolicyGate.Pattern.Expression
/-! # The room of a pattern

A pattern is matched by two automata, of which one reads forwards and the other backwards. The room that
they take follows from the expression: a part that is repeated a number of times takes its room as many
times. A pattern whose automata take too much room is refused. -/

namespace PolicyGate.Pattern

def encodedBytes (c : Char) : List Nat :=
  (String.utf8EncodeChar c).map UInt8.toNat

/-- Words between the empty ones: the groups that empty words part, and the number of empty words. Empty
words at the front count once. -/
def partedByEmpty : List (List Nat) → List (List (List Nat)) × Nat
  | [] => ([[]], 0)
  | w :: ws =>
    let (groups, empties) := partedByEmpty ws
    match w, groups with
    | [], _ => ([] :: groups, empties + 1)
    | w, g :: gs => ((w :: g) :: gs, empties)
    | w, [] => ([[w]], empties)

/-- The room of the tree of some words, in which words with the same beginning share it. Every word has
at most `length` bytes. -/
def wordTreeRoom : (length : Nat) → List (List Nat) → Nat
  | 0, _ => 0
  | length + 1, words =>
    if words.all (· = []) then 0
    else
      let front := words.takeWhile (· = [])
      let (groups, empties) := partedByEmpty (words.drop front.length)
      let filled := groups.filter (· ≠ [])
      let roomOfGroup (group : List (List Nat)) : Nat :=
        let heads := (group.filterMap List.head?).eraseDups
        let below := heads.foldl (fun n h =>
          n + wordTreeRoom length
            ((group.filter fun w => w.head? == some h).map (List.drop 1))) 0
        stateRoom + (if heads.length = 1 then 0 else transitionRoom * heads.length) + below
      let successors := filled.length + empties + (if front = [] then 0 else 1)
      stateRoom + successorRoom * successors +
        filled.foldl (fun n group => n + roomOfGroup group) 0

def literals? (parts : List Expression) : Option (List (List Char)) :=
  parts.mapM fun e => match e with
    | .literal s => some s
    | _ => none

def literalsRoom (backwards : Bool) (texts : List (List Char)) : Nat :=
  let words := texts.map fun s => s.flatMap encodedBytes
  let words := if backwards then words.map List.reverse else words
  stateRoom + wordTreeRoom (words.foldl (fun n w => max n w.length) 0 + 1) words

def repetitionRoom (least : Nat) (most : Option Nat) (room : Nat) (l : Lengths) : Nat :=
  let looped := stateRoom + 2 * successorRoom
  match least, most with
  | 0, some 1 => room + looped + stateRoom
  | 0, none =>
    if l.least.getD 0 = 0 then room + 2 * looped + stateRoom else room + looped
  | least, none => least * room + looped
  | least, some most =>
    let front := if least = 0 then stateRoom else least * room
    if least = most then front else front + stateRoom + (most - least) * (room + looped)

namespace Expression

mutual

/-- The room of the automaton of an expression. Reading backwards, groups leave no trace. -/
def room (backwards : Bool) : Expression → Nat
  | empty => stateRoom
  | literal text => stateRoom * textLength text
  | oneOf codes => codes.room backwards
  | place _ => stateRoom
  | repeated least most part => repetitionRoom least most (room backwards part) (lengths part)
  | group part => (if backwards then 0 else 2 * stateRoom) + room backwards part
  | sequence parts => totalRoom backwards parts
  | choice parts =>
    match literals? parts with
    | some texts => literalsRoom backwards texts
    | none => 2 * stateRoom + successorRoom * parts.length + totalRoom backwards parts

def totalRoom (backwards : Bool) : List Expression → Nat
  | [] => 0
  | e :: es => room backwards e + totalRoom backwards es

end

mutual

/-- A match can begin, or when read backwards end, only at the end of the text on that side. -/
def isAnchored (backwards : Bool) : Expression → Bool
  | place p => p == (if backwards then .textEnd else .textStart)
  | repeated least _ part => least != 0 && isAnchored backwards part
  | group part => isAnchored backwards part
  | sequence parts => if backwards then lastAnchored parts else firstAnchored parts
  | choice parts => allAnchored backwards parts
  | _ => false

/-- One of the parts in front of the first that can match some text is anchored, or that one is. -/
def firstAnchored : List Expression → Bool
  | [] => false
  | e :: es => isAnchored false e || ((lengths e).most == some 0 && firstAnchored es)

def lastAnchored : List Expression → Bool
  | [] => false
  | e :: es =>
    lastAnchored es || ((sequenceLengths es).most == some 0 && isAnchored true e)

def allAnchored (backwards : Bool) : List Expression → Bool
  | [] => true
  | e :: es => isAnchored backwards e && allAnchored backwards es

end

/-- The room of the search for a place where a match begins: none where it can begin in one only. -/
def searchRoom (backwards : Bool) (e : Expression) : Nat :=
  if isAnchored backwards e then stateRoom
  else repetitionRoom 0 none (2 * stateRoom + transitionRoom) ⟨some 1, some 1⟩

def automatonRoom (backwards : Bool) (e : Expression) : Nat :=
  searchRoom backwards e + room backwards (group e) + stateRoom

def roomLimit : Nat := 10 * 1048576

def fits (e : Expression) : Bool :=
  automatonRoom false e ≤ roomLimit && automatonRoom true e ≤ roomLimit

end Expression
end PolicyGate.Pattern
