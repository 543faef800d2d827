import PolicyGate.Pattern.Expression
import PolicyGate.Pattern.Property
import PolicyGate.Text.Blank
import PolicyGate.Text.Decimal
import PolicyGate.Text.Letters
/-! # Reading escapes

What all readers of patterns share: the rest of the text, the flags in force and the names of groups.
Then the escapes, which stand both inside and outside brackets. Back-references and unknown escapes are
refused. -/

namespace PolicyGate.Pattern

structure Flags where
  /-- Blanks and comments between the parts are passed over (`x`). -/
  spaced : Bool := false
  /-- Classes range over characters and not over bytes (`u`). -/
  unicode : Bool := true
  /-- Letters stand for both cases (`i`). -/
  ignoresCase : Bool := false
  /-- Text starts and ends with each line (`m`). -/
  byLine : Bool := false
  /-- A point stands for line ends too (`s`). -/
  pointsAtAll : Bool := false
  /-- Lines may end with a carriage return (`R`). -/
  carriageReturns : Bool := false
deriving Repr

structure Reading where
  rest : List Char
  flags : Flags := {}
  names : List (List Char) := []
deriving Repr

inductive Primitive
  /-- A character; `asByte` when it is written as two hexadecimal digits. -/
  | literal (c : Char) (asByte : Bool)
  | oneOf (codes : CodeSet)
  | place (p : Place)

def skipSpaced : Bool → List Char → List Char
  | _, [] => []
  | inComment, c :: cs =>
    if inComment then skipSpaced (c != '\n') cs
    else if Text.isBlank c then skipSpaced false cs
    else if c == '#' then skipSpaced true cs
    else c :: cs

namespace Reading

def skip (r : Reading) : Reading :=
  if r.flags.spaced then { r with rest := skipSpaced false r.rest } else r

def advance (r : Reading) : Reading :=
  skip { r with rest := r.rest.drop 1 }

def withRest (r : Reading) (rest : List Char) : Reading :=
  { r with rest := rest }

/-- The character that follows the next one, blanks and comments passed over where the flags ask for
it. -/
def following? (r : Reading) : Option Char :=
  (r.advance).rest.head?

end Reading

def lastByte : Nat := 0xFF

namespace Flags

def fold (f : Flags) (codes : CodeSet) : CodeSet :=
  if !f.ignoresCase then codes
  else if f.unicode then Unicode.foldedCodes codes
  else Unicode.foldedAscii codes

/-- A class as it is written: with the other case, and then turned into what it leaves out. Among bytes
it must hold only ASCII, because it must not match a part of a character. -/
def finish? (f : Flags) (negated : Bool) (codes : CodeSet) : Option CodeSet :=
  let folded := f.fold codes
  let last := if f.unicode then CodeSet.lastCode else lastByte
  let meant := if negated then folded.complement last else folded
  if f.unicode || meant.isBelow 128 then some meant else none

def shorthand? (f : Flags) (negated : Bool) (characters : CodeSet) (ascii : Char → Bool) :
    Option CodeSet :=
  { f with ignoresCase := false }.finish? negated
    (if f.unicode then characters else .ascii ascii)

end Flags

def isMeta (c : Char) : Bool :=
  "\\.+*?()|[]\x7b\x7d^$#&-~".toList.contains c

/-- A backslash may stand in front of every ASCII character but letters, digits and angle brackets. -/
def isEscapable (c : Char) : Bool :=
  isMeta c || (c.toNat < 128 && !c.isAlphanum && c != '<' && c != '>')

def scalar? (n : Nat) : Option Char :=
  if n.isValidChar then some (Char.ofNat n) else none

def bracedDigits : Nat → Reading → List Char → Option (List Char × Reading)
  | 0, _, _ => none
  | fuel + 1, r, digits =>
    match r.rest with
    | [] => none
    | '}' :: _ => some (digits.reverse, r.advance)
    | c :: _ => if Text.Hex.isDigit c then bracedDigits fuel r.advance (c :: digits) else none

def fixedDigits : Nat → Reading → List Char → Option (List Char × Reading)
  | 0, r, digits => some (digits.reverse, r)
  | count + 1, r, digits =>
    match r.rest with
    | c :: _ => if Text.Hex.isDigit c then fixedDigits count r.advance (c :: digits) else none
    | [] => none

def hexLiteral (kind : Char) (r : Reading) : Option (Primitive × Reading) :=
  match r.rest with
  | '{' :: _ => do
    let (digits, r) ← bracedDigits (r.rest.length + 1) r.advance []
    if digits = [] then none
    else
      let c ← scalar? (← Text.Hex.value? digits)
      return (.literal c false, r)
  | _ => do
    let count := if kind = 'x' then 2 else if kind = 'u' then 4 else 8
    let (digits, r) ← fixedDigits count r []
    let c ← scalar? (← Text.Hex.value? digits)
    return (.literal c (kind == 'x'), r)

def cutAt (mark : List Char) : List Char → Option (List Char × List Char)
  | [] => none
  | c :: cs =>
    if mark.isPrefixOf (c :: cs) then some ([], (c :: cs).drop mark.length)
    else (cutAt mark cs).map fun (before, after) => (c :: before, after)

def bracedName : Nat → Reading → List Char → Option (List Char × Reading)
  | 0, _, _ => none
  | fuel + 1, r, name =>
    match r.rest with
    | [] => none
    | '}' :: cs => some (name.reverse, r.withRest cs)
    | c :: _ => bracedName fuel r.advance (c :: name)

/-- The class that stands between braces: a name, or a property and a value. -/
def bracedClass? (name : List Char) : Option CodeSet :=
  match cutAt ['!', '='] name with
  | some (p, v) => valueClass? p v
  | none =>
    match cutAt [':'] name with
    | some (p, v) => valueClass? p v
    | none =>
      match cutAt ['='] name with
      | some (p, v) => valueClass? p v
      | none => namedClass? name

def propertyName (r : Reading) : Option (CodeSet × Reading) :=
  match r.rest with
  | [] => none
  | '{' :: _ => do
    let (name, next) ← bracedName (r.rest.length + 1) r.advance []
    return (← bracedClass? name, next)
  | c :: _ => if c = '\\' then none else (namedClass? [c]).map fun codes => (codes, r.advance)

/-- Reads the class that a property names after `\p` or `\P`. It exists only among characters. -/
def propertyClass (negated : Bool) (r : Reading) : Option (Primitive × Reading) := do
  let (codes, next) ← propertyName r
  if r.flags.unicode then return (.oneOf (← r.flags.finish? negated codes), next) else none

def boundaryName : Nat → Reading → List Char → List Char × Reading
  | 0, r, name => (name.reverse, r)
  | fuel + 1, r, name =>
    match r.rest with
    | c :: _ =>
      if c.isAlpha || c == '-' then boundaryName fuel r.advance (c :: name) else (name.reverse, r)
    | [] => (name.reverse, r)

def boundary? (name : String) : Option Place :=
  match name with
  | "start" => some .wordStart
  | "end" => some .wordEnd
  | "start-half" => some .wordStartHalf
  | "end-half" => some .wordEndHalf
  | _ => none

/-- Reads what follows `\b`: a special boundary such as `{start}`, or nothing. -/
def wordBoundary (r : Reading) : Option (Primitive × Reading) :=
  match r.rest with
  | '{' :: _ =>
    let inner := r.advance
    match inner.rest with
    | [] => none
    | c :: _ =>
      if c.isAlpha || c == '-' then
        let (name, last) := boundaryName (inner.rest.length + 1) inner []
        match last.rest with
        | '}' :: cs =>
          (boundary? (String.ofList name)).map fun p => (.place p, last.withRest cs)
        | _ => none
      else some (.place .wordBoundary, r)
  | _ => some (.place .wordBoundary, r)

def isWordCharacter (c : Char) : Bool :=
  c.isAlphanum || c == '_'

def escaped (r : Reading) : Option (Primitive × Reading) :=
  match r.rest with
  | [] => none
  | c :: cs =>
    let next := r.withRest cs
    if c.isDigit then none
    else if c = 'x' ∨ c = 'u' ∨ c = 'U' then
      if r.advance.rest = [] then none else hexLiteral c r.advance
    else if c = 'p' ∨ c = 'P' then propertyClass (c == 'P') r.advance
    else if c = 'd' ∨ c = 'D' then do
      return (.oneOf (← r.flags.shorthand? (c == 'D') digitCodes Char.isDigit), next)
    else if c = 's' ∨ c = 'S' then do
      return (.oneOf (← r.flags.shorthand? (c == 'S') blankCodes Text.isBlank), next)
    else if c = 'w' ∨ c = 'W' then do
      return (.oneOf (← r.flags.shorthand? (c == 'W') wordCodes isWordCharacter), next)
    else if isEscapable c then some (.literal c false, next)
    else if c = 'a' then some (.literal '\x07' false, next)
    else if c = 't' then some (.literal '\t' false, next)
    else if c = 'n' then some (.literal '\n' false, next)
    else if c = 'v' then some (.literal '\x0b' false, next)
    else if c = 'f' then some (.literal '\x0c' false, next)
    else if c = 'r' then some (.literal '\r' false, next)
    else if c = 'A' then some (.place .textStart, next)
    else if c = 'z' then some (.place .textEnd, next)
    else if c = 'B' then some (.place .insideWord, next)
    else if c = '<' then some (.place .wordStart, next)
    else if c = '>' then some (.place .wordEnd, next)
    else if c = 'b' then wordBoundary next
    else none

end PolicyGate.Pattern
