import PolicyGate.Pattern.CharacterClass
import PolicyGate.Pattern.Room
/-! # Well-formed patterns

A pattern is a regular expression without look-around and back-references whose parts do not nest too
deep and whose automata do not take too much room. `isPattern` says whether a text is one. -/

namespace PolicyGate.Pattern

def depthLimit : Nat := 250

structure Part where
  expression : Expression
  depth : Nat := 0

/-- The parts read so far in one alternative, the last one first; `none` is a change of flags. -/
abbrev Parts := List (Option Part)

def Parts.close (ps : Parts) : Part where
  expression := .ofSequence (ps.reverse.filterMap fun p => p.map (·.expression))
  depth := depthOfParts (ps.map fun p => (p.map (·.depth)).getD 0)

def choiceOf (branches : List Part) : Part where
  expression := .ofChoice (branches.reverse.map (·.expression))
  depth := depthOfParts (branches.map (·.depth))

def isFlag (c : Char) : Bool :=
  ['i', 'm', 's', 'U', 'u', 'R', 'x'].contains c

/-- Reads flags up to a colon or a closing parenthesis, and gives the letters in front of the hyphen,
those behind it, and the rest from the end mark on. -/
def flagLetters : List Char → Bool → List Char → List Char →
    Option (List Char × List Char × List Char)
  | [], _, _, _ => none
  | c :: cs, negated, on, off =>
    if c = ':' ∨ c = ')' then
      if negated ∧ off = [] then none else some (on, off, c :: cs)
    else if c = '-' then if negated then none else flagLetters cs true on off
    else if isFlag c ∧ c ∉ on ∧ c ∉ off then
      if negated then flagLetters cs negated on (c :: off) else flagLetters cs negated (c :: on) off
    else none

def Flags.switch (f : Flags) (on off : List Char) : Flags :=
  let switched (letter : Char) (before : Bool) : Bool :=
    if letter ∈ on then true else if letter ∈ off then false else before
  { spaced := switched 'x' f.spaced
    unicode := switched 'u' f.unicode
    ignoresCase := switched 'i' f.ignoresCase
    byLine := switched 'm' f.byLine
    pointsAtAll := switched 's' f.pointsAtAll
    carriageReturns := switched 'R' f.carriageReturns }

/-- The characters of a group's name: a letter or an underscore, then also numbers, points and
brackets. -/
def isGroupName : List Char → Bool
  | [] => false
  | c :: cs =>
    (c == '_' || Text.isLetter c) &&
      cs.all fun d => d == '_' || d == '.' || d == '[' || d == ']' || Text.isLetterOrNumber d

inductive Group
  | flags (on off : List Char)
  /-- A group with its own flags; what some groups match can be asked for later. -/
  | opened (flags : Flags) (isKept : Bool)

def groupName (r : Reading) : Option (Group × Reading) :=
  let name := r.rest.takeWhile (· != '>')
  match r.rest.drop name.length with
  | _ :: cs =>
    if isGroupName name ∧ name ∉ r.names then
      some (.opened r.flags true, { r with rest := cs, names := name :: r.names })
    else none
  | [] => none

def groupOpening (r : Reading) : Option (Group × Reading) :=
  let r := r.skip
  match r.rest with
  | '?' :: '=' :: _ => none
  | '?' :: '!' :: _ => none
  | '?' :: '<' :: '=' :: _ => none
  | '?' :: '<' :: '!' :: _ => none
  | '?' :: 'P' :: '<' :: cs => groupName (r.withRest cs)
  | '?' :: '<' :: cs => groupName (r.withRest cs)
  | '?' :: cs => do
    let (on, off, rest) ← flagLetters cs false [] []
    match rest with
    | ':' :: rest => return (.opened (r.flags.switch on off) false, r.withRest rest)
    | _ :: rest => if on = [] ∧ off = [] then none else return (.flags on off, r.withRest rest)
    | [] => none
  | _ => some (.opened r.flags true, r)

/-- Reads a decimal number inside braces, with blanks on both sides; `some none` when there is no
digit. -/
def countNumber (r : Reading) : Option (Option Nat × Reading) :=
  let r := r.withRest (Text.trimStart r.rest)
  let (digits, r) := digitsFrom (r.rest.length + 1) r []
  let r := r.withRest (Text.trimStart r.rest)
  if digits = [] then some (none, r)
  else if Text.digitsValue digits < UInt32.size then some (some (Text.digitsValue digits), r)
  else none
where
  digitsFrom : Nat → Reading → List Char → List Char × Reading
    | 0, r, digits => (digits.reverse, r)
    | fuel + 1, r, digits =>
      match r.rest with
      | c :: _ => if c.isDigit then digitsFrom fuel r.advance (c :: digits) else (digits.reverse, r)
      | [] => (digits.reverse, r)

def reluctance (r : Reading) : Reading :=
  match r.rest with
  | '?' :: cs => r.withRest cs
  | _ => r

/-- Reads a repetition such as `{2,5}` from behind its opening brace: the least number, and the largest
one if there is any. -/
def repetitionCount (r : Reading) : Option (Nat × Option Nat × Reading) := do
  let (least, r) ← countNumber r.skip
  let least ← least
  match r.rest with
  | ',' :: _ =>
    let r := r.advance
    match r.rest with
    | '}' :: _ => return (least, none, reluctance r.advance)
    | _ =>
      let (most, r) ← countNumber r
      let most ← most
      match r.rest with
      | '}' :: _ => if least ≤ most then return (least, some most, reluctance r.advance) else none
      | _ => none
  | '}' :: _ => return (least, some least, reluctance r.advance)
  | _ => none

/-- The expression of a character: a class where it has another case that counts as well. -/
def characterPart (flags : Flags) (c : Char) : Expression :=
  .ofCodes (flags.fold (.single c.toNat))

/-- The expression of a primitive outside brackets; among bytes it may match only ASCII. -/
def Primitive.expression? (flags : Flags) : Primitive → Option Expression
  | .literal c asByte =>
    if flags.unicode || !asByte || c.toNat < 128 then some (characterPart flags c) else none
  | .oneOf codes => some (.ofCodes codes)
  | .place p => some (.place p)

/-- The characters for which a point stands; among bytes there are none that it may stand for. -/
def pointCodes? (flags : Flags) : Option CodeSet :=
  let ends : CodeSet :=
    if flags.pointsAtAll then .empty
    else if flags.carriageReturns then .ofRanges [(10, 10), (13, 13)]
    else .single 10
  if flags.unicode then some (ends.complement CodeSet.lastCode) else none

def alternatives : Nat → Reading → Parts → List Part → Option (Part × Reading)
  | 0, _, _, _ => none
  | fuel + 1, r, parts, branches =>
    let r := r.skip
    let add (e : Expression) (r : Reading) :=
      alternatives fuel r (some { expression := e } :: parts) branches
    let repeated (least : Nat) (most : Option Nat) (r : Reading) :=
      match parts with
      | some p :: ps =>
        alternatives fuel r (some ⟨p.expression.times least most, p.depth + 1⟩ :: ps) branches
      | _ => none
    match r.rest with
    | [] => some (choiceOf (parts.close :: branches), r)
    | ')' :: _ => some (choiceOf (parts.close :: branches), r)
    | '|' :: cs => alternatives fuel (r.withRest cs) [] (parts.close :: branches)
    | '(' :: cs => do
      let (group, inner) ← groupOpening (r.withRest cs)
      match group with
      | .flags on off =>
        alternatives fuel { inner with flags := r.flags.switch on off } (none :: parts) branches
      | .opened flags isKept =>
        let (p, inner) ← alternatives fuel { inner with flags } [] []
        let e := if isKept then .group p.expression else p.expression
        match inner.rest with
        | _ :: cs =>
          alternatives fuel { inner with rest := cs, flags := r.flags }
            (some ⟨e, p.depth + 1⟩ :: parts) branches
        | [] => none
    | '[' :: cs => do
      let (c, r) ← bracketed (r.withRest cs)
      alternatives fuel r (some ⟨.ofCodes c.codes, c.depth⟩ :: parts) branches
    | '?' :: cs => repeated 0 (some 1) (reluctance (r.withRest cs))
    | '*' :: cs => repeated 0 none (reluctance (r.withRest cs))
    | '+' :: cs => repeated 1 none (reluctance (r.withRest cs))
    | '{' :: cs => do
      let (least, most, r) ← repetitionCount (r.withRest cs)
      repeated least most r
    | '\\' :: cs => do
      let (p, r) ← escaped (r.withRest cs)
      add (← p.expression? r.flags) r
    | '.' :: cs => do add (.ofCodes (← pointCodes? r.flags)) (r.withRest cs)
    | '^' :: cs => add (.place (if r.flags.byLine then .lineStart else .textStart)) (r.withRest cs)
    | '$' :: cs => add (.place (if r.flags.byLine then .lineEnd else .textEnd)) (r.withRest cs)
    | c :: cs => add (characterPart r.flags c) (r.withRest cs)

end Pattern

/-- The text is a well-formed regular expression. -/
def isPattern (s : String) : Bool :=
  match Pattern.alternatives (s.length + 1) { rest := s.toList } [] [] with
  | some (p, r) => r.rest.isEmpty && p.depth ≤ Pattern.depthLimit && p.expression.fits
  | none => false

end PolicyGate
