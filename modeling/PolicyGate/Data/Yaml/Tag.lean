import PolicyGate.Data.Yaml.Cursor
import PolicyGate.Data.Yaml.ScalarReading
import PolicyGate.Data.Yaml.Token
/-! # Reading tags, anchors and directives

A tag is written in full between angle brackets, or begins with a handle. Directives at the head of a
document give the version of the language and the meaning of handles. -/

namespace PolicyGate.Data.Yaml

/-! ## Names -/

def isWordChar (c : Char) : Bool :=
  c.isAlphanum || c == '-' || c == '_'

def word (c : Cursor) : String × Cursor :=
  let cs := c.rest.takeWhile isWordChar
  (String.ofList cs, c.skip cs.length)

def anchorName? (c : Cursor) : Option (String × Cursor) :=
  let (name, last) := word (c.skip 1)
  if name ≠ "" &&
      (isBlankOrEnd last.head? || last.head?.any "?:,]\x7d%@\x60".toList.contains) then
    some (name, last)
  else none

/-! ## Tags -/

/-- Characters of tags. Where a tag is written in full, commas and square brackets belong to them. -/
def isTagChar (inFull : Bool) (c : Char) : Bool :=
  isWordChar c || ";/?:@&=+$.%!~*'()".toList.contains c || (inFull && ",[]".toList.contains c)

def octet? (c : Cursor) : Option (Nat × Cursor) :=
  match c.rest with
  | '%' :: a :: b :: _ => (digitsIn? 16 [a, b]).map fun n => (n, c.skip 3)
  | _ => none

def octetCount? (first : Nat) : Option Nat :=
  if first < 0x80 then some 1
  else if first < 0xC0 then none
  else if first < 0xE0 then some 2
  else if first < 0xF0 then some 3
  else if first < 0xF8 then some 4
  else none

def furtherOctets? : Nat → Cursor → Option (Bytes × Cursor)
  | 0, c => some ([], c)
  | count + 1, c => do
    let (n, c) ← octet? c
    if 0x80 ≤ n ∧ n < 0xC0 then
      let (more, c) ← furtherOctets? count c
      return (UInt8.ofNat n :: more, c)
    else none

def octets? (c : Cursor) : Option (Bytes × Cursor) := do
  let (first, c) ← octet? c
  let (more, c) ← furtherOctets? ((← octetCount? first) - 1) c
  return (UInt8.ofNat first :: more, c)

def tagText? (inFull : Bool) : Nat → Cursor → Option (Bytes × Cursor)
  | 0, c => some ([], c)
  | fuel + 1, c =>
    match c.rest with
    | [] => some ([], c)
    | x :: _ => do
      if !isTagChar inFull x then return ([], c)
      else
        let (front, c) ← if x = '%' then octets? c else some (Text.toBytes x.toString, c.skip 1)
        let (more, c) ← tagText? inFull fuel c
        return (front ++ more, c)

def tagPart? (inFull : Bool) (c : Cursor) : Option (Bytes × Cursor) := do
  let (bytes, c) ← tagText? inFull c.rest.length c
  if bytes.isEmpty then none else return (bytes, c)

/-- Takes a handle: an exclamation mark, or a word between two. -/
def tagHandle? (c : Cursor) : Option (String × Cursor) :=
  let (name, last) := word (c.skip 1)
  if last.head? = some '!' then some ("!" ++ name ++ "!", last.skip 1)
  else if name = "" then some ("!", last)
  else none

def fullTag? (c : Cursor) : Option (Token × Cursor) := do
  let (suffix, c) ← tagPart? true (c.skip 2)
  if c.head? = some '>' then return (.tag "" suffix, c.skip 1) else none

/-- Takes a tag that begins with a handle; a lone exclamation mark is a tag in full. -/
def shortTag? (c : Cursor) : Option (Token × Cursor) := do
  match tagHandle? c with
  | some (handle, next) =>
    if handle ≠ "!" then
      let (suffix, last) ← tagPart? false next
      return (.tag handle suffix, last)
    else
      let (suffix, last) ← tagText? false next.rest.length next
      if suffix.isEmpty then return (.tag "" (Text.toBytes "!"), last) else return (.tag "!" suffix, last)
  | none =>
    let (suffix, last) ← tagPart? false (c.skip 1)
    return (.tag "!" suffix, last)

/-- Takes a tag. A blank follows it, or inside brackets a comma. -/
def tag? (inFlow : Bool) (c : Cursor) : Option (Token × Cursor) := do
  let (t, last) ← if (c.rest.drop 1).head? = some '<' then fullTag? c else shortTag? c
  if isBlankOrEnd last.head? || (inFlow && last.head? == some ',') then return (t, last) else none

/-! ## Directives -/

def versionNumber? (c : Cursor) : Option (Nat × Cursor) :=
  let digits := c.rest.takeWhile Char.isDigit
  if digits = [] ∨ 9 < digits.length then none
  else some (Text.digitsValue digits, c.skip digits.length)

def versionValue? (c : Cursor) : Option (Token × Cursor) := do
  let (major, c) ← versionNumber? c.skipBlanks
  if c.head? = some '.' then
    let (minor, c) ← versionNumber? (c.skip 1)
    return (.version major minor, c)
  else none

def handleValue? (c : Cursor) : Option (Token × Cursor) := do
  let c := c.skipBlanks
  if c.head? = some '!' then
    let (name, c) ← tagHandle? c
    if c.head? = some ' ' ∨ c.head? = some '\t' then
      let (meaning, c) ← tagPart? true c.skipBlanks
      if isBlankOrEnd c.head? then return (.handle name meaning, c) else none
    else none
  else none

def directive? (c : Cursor) : Option (Token × Cursor) := do
  let (name, last) := word (c.skip 1)
  if !isBlankOrEnd last.head? then none
  else
    let (t, last) ←
      if name = "YAML" then versionValue? last
      else if name = "TAG" then handleValue? last
      else none
    let last := last.skipBlanks
    if last.rest.isEmpty || last.head?.any fun x => x == '#' || isBreak x then
      return (t, last.skip (last.rest.takeWhile (!isBreak ·)).length)
    else none

end PolicyGate.Data.Yaml
