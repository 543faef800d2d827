import PolicyGate.Pattern.Reading
/-! # Bracketed classes

Classes in brackets hold characters, ranges, named classes and further brackets, joined by the set
operators `&&`, `--` and `~~`. -/

namespace PolicyGate.Pattern

structure ReadClass where
  codes : CodeSet
  depth : Nat := 0

inductive SetOperator
  | intersection
  | difference
  | symmetricDifference

def SetOperator.apply (op : SetOperator) (flags : Flags) (a b : ReadClass) : ReadClass where
  codes :=
    let left := flags.fold a.codes
    let right := flags.fold b.codes
    match op with
    | .intersection => left.intersection right
    | .difference => left.difference right
    | .symmetricDifference => left.symmetricDifference right
  depth := 1 + max a.depth b.depth

def depthOfParts : List Nat → Nat
  | [] => 0
  | [d] => d
  | ds => 1 + ds.foldl max 0

/-- The members read so far between two operators, the last one first. -/
abbrev Members := List ReadClass

/-- The class of the members, joined to what stands in front of them. -/
def Members.close (m : Members) (flags : Flags) (left : Option (SetOperator × ReadClass)) :
    ReadClass :=
  let own : ReadClass := ⟨.ofRanges (m.flatMap (·.codes.ranges)), depthOfParts (m.map (·.depth))⟩
  match left with
  | some (op, c) => op.apply flags c own
  | none => own

/-- The class of the characters from one to another; among bytes only ASCII characters have one. -/
def rangeClass (flags : Flags) (low high : Char) : Option ReadClass :=
  if low ≤ high ∧ (flags.unicode ∨ high.toNat < 128) then some { codes := .range low.toNat high.toNat }
  else none

def literalClass (flags : Flags) (c : Char) : Option ReadClass :=
  rangeClass flags c c

def Primitive.member? (flags : Flags) : Primitive → Option ReadClass
  | .literal c _ => literalClass flags c
  | .oneOf codes => some { codes }
  | .place _ => none

def namedAsciiClass? (name : List Char) : Option CodeSet :=
  match String.ofList name with
  | "alnum" => some (.ascii Char.isAlphanum)
  | "alpha" => some (.ascii Char.isAlpha)
  | "ascii" => some (.range 0 127)
  | "blank" => some (.ascii fun c => c == ' ' || c == '\t')
  | "cntrl" => some (.ascii fun c => c.toNat < 32 || c.toNat == 127)
  | "digit" => some (.ascii Char.isDigit)
  | "graph" => some (.range 33 126)
  | "lower" => some (.ascii Char.isLower)
  | "print" => some (.range 32 126)
  | "punct" => some (.ascii fun c => 32 < c.toNat && c.toNat < 127 && !c.isAlphanum)
  | "space" => some (.ascii Text.isBlank)
  | "upper" => some (.ascii Char.isUpper)
  | "word" => some (.ascii isWordCharacter)
  | "xdigit" => some (.ascii Text.Hex.isDigit)
  | _ => none

/-- Reads the name of a class such as `[:alpha:]`, given what follows its opening bracket: whether it is
negated, its characters, and the rest. -/
def asciiClass? : List Char → Option (Bool × CodeSet × List Char)
  | ':' :: cs =>
    let (negated, cs) := match cs with
      | '^' :: ds => (true, ds)
      | ds => (false, ds)
    let name := cs.takeWhile (· != ':')
    match cs.drop name.length with
    | ':' :: ']' :: rest => do return (negated, ← namedAsciiClass? name, rest)
    | _ => none
  | _ => none

def classItem (r : Reading) : Option (Primitive × Reading) :=
  match r.rest with
  | [] => none
  | '\\' :: cs => escaped (r.withRest cs)
  | c :: cs => some (.literal c false, r.withRest cs)

def classRange (r : Reading) : Option (ReadClass × Reading) := do
  let (first, r) ← classItem r
  let r := r.skip
  match r.rest with
  | [] => none
  | '-' :: _ =>
    if r.following? = some ']' ∨ r.following? = some '-' then
      return (← first.member? r.flags, r)
    else
      let (last, r) ← if r.advance.rest = [] then none else classItem r.advance
      match first, last with
      | .literal low _, .literal high _ => return (← rangeClass r.flags low high, r)
      | _, _ => none
  | _ => return (← first.member? r.flags, r)

/-- Reads hyphens that stand for themselves at the front of a class. -/
def leadingHyphens : Nat → Reading → Members → Option (Members × Reading)
  | 0, _, _ => none
  | fuel + 1, r, m =>
    match r.rest with
    | [] => none
    | '-' :: _ => leadingHyphens fuel r.advance ({ codes := .single 45 } :: m)
    | _ => some (m, r)

/-- Reads what follows an opening bracket: a sign of negation, hyphens, and a closing bracket that
stands for itself because the class would be empty. -/
def classOpening (r : Reading) : Option (Bool × Members × Reading) := do
  let r := r.skip
  let (negated, r) := match r.rest with
    | '^' :: _ => (true, r.advance)
    | _ => (false, r)
  let (m, r) ← leadingHyphens (r.rest.length + 1) r []
  match r.rest with
  | ']' :: _ =>
    if m.isEmpty then
      let r := r.advance
      if r.rest = [] then none else return (negated, [{ codes := .single 93 }], r)
    else return (negated, m, r)
  | _ => return (negated, m, r)

def classRest : Nat → Reading → Bool → Option (SetOperator × ReadClass) → Members →
    Option (ReadClass × Reading)
  | 0, _, _, _, _ => none
  | fuel + 1, r, negated, left, m =>
    let r := r.skip
    let operator (op : SetOperator) (cs : List Char) :=
      classRest fuel (r.withRest cs) negated (some (op, m.close r.flags left)) []
    match r.rest with
    | [] => none
    | '[' :: cs =>
      match asciiClass? cs with
      | some (inverse, codes, rest) => do
        let codes ← r.flags.finish? inverse codes
        classRest fuel (r.withRest rest) negated left ({ codes } :: m)
      | none => do
        let (innerNegated, inner, s) ← classOpening (r.withRest cs)
        let (c, s) ← classRest fuel s innerNegated none inner
        classRest fuel s negated left (c :: m)
    | ']' :: cs => do
      let c := m.close r.flags left
      return (⟨← r.flags.finish? negated c.codes, c.depth + 1⟩, r.withRest cs)
    | '&' :: '&' :: cs => operator .intersection cs
    | '-' :: '-' :: cs => operator .difference cs
    | '~' :: '~' :: cs => operator .symmetricDifference cs
    | _ => do
      let (c, r) ← classRange r
      classRest fuel r negated left (c :: m)

def bracketed (r : Reading) : Option (ReadClass × Reading) := do
  let (negated, m, r) ← classOpening r
  classRest (r.rest.length + 1) r negated none m

end PolicyGate.Pattern
