import PolicyGate.Pattern.CodeSet
/-! # Pattern expressions

What a pattern says, as a tree in which neighbouring characters stand together, a class of one character
is that character, and alternatives that are classes are one class. -/

namespace PolicyGate.Pattern

inductive Place
  | textStart
  | textEnd
  | lineStart
  | lineEnd
  | wordBoundary
  | insideWord
  | wordStart
  | wordEnd
  | wordStartHalf
  | wordEndHalf
deriving DecidableEq, Repr

inductive Expression
  | empty
  | literal (text : List Char)
  | oneOf (codes : CodeSet)
  | place (p : Place)
  | repeated (least : Nat) (most : Option Nat) (part : Expression)
  | group (part : Expression)
  | sequence (parts : List Expression)
  | choice (parts : List Expression)
deriving Repr

/-- The number of bytes that an expression matches at least and at most. A class without members
matches nothing and has neither number. -/
structure Lengths where
  least : Option Nat
  most : Option Nat

def encodedLength (code : Nat) : Nat :=
  if code < 0x80 then 1 else if code < 0x800 then 2 else if code < 0x10000 then 3 else 4

def textLength (text : List Char) : Nat :=
  text.foldl (fun n c => n + encodedLength c.toNat) 0

def both (f : Nat → Nat → Nat) : Option Nat → Option Nat → Option Nat
  | some a, some b => some (f a b)
  | _, _ => none

namespace Expression

mutual

def lengths : Expression → Lengths
  | empty => ⟨some 0, some 0⟩
  | literal text => ⟨some (textLength text), some (textLength text)⟩
  | oneOf codes =>
    ⟨codes.ranges.head?.map fun r => encodedLength r.1,
      codes.ranges.getLast?.map fun r => encodedLength r.2⟩
  | place _ => ⟨some 0, some 0⟩
  | repeated least most part =>
    let l := lengths part
    ⟨l.least.map (· * least), both (· * ·) l.most most⟩
  | group part => lengths part
  | sequence parts => sequenceLengths parts
  | choice parts => (choiceLengths parts).getD ⟨none, none⟩

def sequenceLengths : List Expression → Lengths
  | [] => ⟨some 0, some 0⟩
  | e :: es =>
    let a := lengths e
    let b := sequenceLengths es
    ⟨both (· + ·) a.least b.least, both (· + ·) a.most b.most⟩

def choiceLengths : List Expression → Option Lengths
  | [] => none
  | e :: es =>
    let a := lengths e
    match choiceLengths es with
    | none => some a
    | some b => some ⟨both min a.least b.least, both max a.most b.most⟩

end

mutual

/-- Two expressions are equal. Groups never are, because each has a number of its own. -/
def same : Expression → Expression → Bool
  | empty, empty => true
  | literal s, literal t => s == t
  | oneOf a, oneOf b => a == b
  | place p, place q => p == q
  | repeated a b e, repeated c d f => a == c && b == d && same e f
  | sequence es, sequence fs => sameAll es fs
  | choice es, choice fs => sameAll es fs
  | _, _ => false

def sameAll : List Expression → List Expression → Bool
  | [], [] => true
  | e :: es, f :: fs => same e f && sameAll es fs
  | _, _ => false

end

/-- A class; one without choice is a literal. -/
def ofCodes (codes : CodeSet) : Expression :=
  match codes.only? with
  | some n => literal [Char.ofNat n]
  | none => oneOf codes

/-- A repetition. What matches only the empty text is repeated at most once. -/
def times (least : Nat) (most : Option Nat) (part : Expression) : Expression :=
  let (least, most) :=
    if (lengths part).most = some 0 then (min least 1, some (min (most.getD 1) 1)) else (least, most)
  if least = 0 ∧ most = some 0 then empty
  else if least = 1 ∧ most = some 1 then part
  else repeated least most part

/-- Puts a part in front of others; neighbouring literals become one. -/
def prepend : Expression → List Expression → List Expression
  | empty, es => es
  | literal s, literal t :: es => literal (s ++ t) :: es
  | e, es => e :: es

def ofSequence (parts : List Expression) : Expression :=
  let flat := parts.flatMap fun e => match e with
    | sequence es => es
    | e => [e]
  match flat.foldr prepend [] with
  | [] => empty
  | [e] => e
  | es => sequence es

/-- The class that an alternative is: a class, or a literal of one character. -/
def asCodes? : Expression → Option CodeSet
  | oneOf codes => some codes
  | literal [c] => some (.single c.toNat)
  | _ => none

def commonParts : List Expression → List Expression → List Expression
  | e :: es, f :: fs => if same e f then e :: commonParts es fs else []
  | _, _ => []

def sharedParts : List Expression → Option (List Expression)
  | [] => none
  | [sequence es] => some es
  | sequence es :: alternatives => (sharedParts alternatives).map (commonParts es)
  | _ :: _ => none

def withoutParts (count : Nat) : Expression → Expression
  | sequence es => ofSequence (es.drop count)
  | e => e

/-- One of some parts: a class if all are classes; parts with which all begin stand in front. The
number bounds how often such parts are moved. -/
def ofChoiceWithin : Nat → List Expression → Expression
  | 0, parts => choice parts
  | fuel + 1, parts =>
    let flat := parts.flatMap fun e => match e with
      | choice es => es
      | e => [e]
    match flat with
    | [] => oneOf .empty
    | [e] => e
    | flat =>
      match flat.mapM asCodes? with
      | some classes => ofCodes (.ofRanges (classes.flatMap (·.ranges)))
      | none =>
        match sharedParts flat with
        | some (e :: es) =>
          ofSequence (e :: es ++
            [ofChoiceWithin fuel (flat.map (withoutParts (es.length + 1)))])
        | _ => choice flat

def moveLimit : Nat := 1000

def ofChoice (parts : List Expression) : Expression :=
  ofChoiceWithin moveLimit parts

end Expression
end PolicyGate.Pattern
