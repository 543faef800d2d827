import PolicyGate.Text.Decimal
import PolicyGate.Text.Hex
/-! # YAML scalars

How a string is written as a scalar. It stands plain where it reads back as the same string, else in
single quotes, in a literal block if it has several lines, and in double quotes if nothing else will
do. -/

namespace PolicyGate.Data.Yaml

def truthWords : List String :=
  ["true", "True", "TRUE", "false", "False", "FALSE"]

/-- Words for a missing value, and numbers without digits. -/
def valueWords : List String :=
  ["", "~", "null", "Null", "NULL", ".inf", ".Inf", ".INF", "+.inf", "+.Inf", "+.INF", "-.inf", "-.Inf",
   "-.INF", ".nan", ".NaN", ".NAN"]

def digitsIn? (base : Nat) (cs : List Char) : Option Nat :=
  if cs = [] then none
  else
    cs.foldlM (fun n c => do
      let d ← Text.Hex.digitValue? c
      if d < base then some (base * n + d) else none) 0

def baseNumber? : List Char → Option Nat
  | '0' :: 'x' :: cs => digitsIn? 16 cs
  | '0' :: 'o' :: cs => digitsIn? 8 cs
  | '0' :: 'b' :: cs => digitsIn? 2 cs
  | _ => none

/-- The smallest number that double precision rounds to infinity. -/
def infinityBound : Nat := ((1 <<< 54) - 1) <<< 970

def isFinite (digits : List Char) (exponent : Int) : Bool :=
  let significant := digits.dropWhile (· = '0')
  let places : Int := significant.length + exponent
  if significant = [] ∨ places ≤ 308 then true
  else if 310 ≤ places then false
  else
    let n := Text.digitsValue significant
    if 0 ≤ exponent then n * Nat.pow 10 exponent.toNat < infinityBound
    else n < infinityBound * Nat.pow 10 (-exponent).toNat

def exponent? : List Char → Option Int
  | [] => some 0
  | c :: cs =>
    if c = 'e' ∨ c = 'E' then
      match cs with
      | '-' :: ds => (Text.natural? ds).map fun n => -(n : Int)
      | '+' :: ds => (Text.natural? ds).map fun n => (n : Int)
      | ds => (Text.natural? ds).map fun n => (n : Int)
    else none

/-- Decimal digits with at most one point and an exponent, for a finite number. -/
def isDecimal (cs : List Char) : Bool :=
  let whole := cs.takeWhile Char.isDigit
  let rest := cs.drop whole.length
  let (fraction, rest) := match rest with
    | '.' :: r => (r.takeWhile Char.isDigit, r.dropWhile Char.isDigit)
    | r => ([], r)
  match exponent? rest with
  | some e =>
    (whole ≠ [] ∨ fraction ≠ []) && isFinite (whole ++ fraction) (e - fraction.length)
  | none => false

/-- A zero and more digits: some readers take this for a number. -/
def hasLeadingZero : List Char → Bool
  | '0' :: c :: cs => (c :: cs).all Char.isDigit
  | _ => false

def isNumber (cs : List Char) : Bool :=
  let below (bound : Nat) (n : Option Nat) : Bool := n.any (· < bound)
  match cs with
  | '+' :: ds => hasLeadingZero ds || below (1 <<< 128) (baseNumber? ds) || isDecimal ds
  | '-' :: ds => hasLeadingZero ds || below ((1 <<< 127) + 1) (baseNumber? ds) || isDecimal ds
  | ds => hasLeadingZero ds || below (1 <<< 128) (baseNumber? ds) || isDecimal ds

def isAmbiguous (s : String) : Bool :=
  truthWords.contains s || valueWords.contains s || isNumber s.toList

def isBreak (c : Char) : Bool :=
  c == '\n' || c == '\r' || c == '\u0085' || c == '\u2028' || c == '\u2029'

/-- Characters that need no escape: of the first plane, and no controls. -/
def isPrintable (c : Char) : Bool :=
  let n := c.toNat
  n == 0x0A || (0x20 ≤ n && n ≤ 0x7E) || (0xA0 ≤ n && n ≤ 0xD7FF) ||
    (0xE000 ≤ n && n ≤ 0xFFFD && n != 0xFEFF)

def isBlankOrEnd : Option Char → Bool
  | none => true
  | some c => c == ' ' || c == '\t' || c == '\x00' || isBreak c

def isIndicator (c : Char) : Bool :=
  "#,[]\x7b\x7d&*!|>'\"%@\x60".toList.contains c

def hasInnerIndicator : List Char → Bool
  | [] => false
  | [_] => false
  | a :: b :: cs =>
    (b == ':' && isBlankOrEnd cs.head?) || (b == '#' && isBlankOrEnd (some a)) ||
      hasInnerIndicator (b :: cs)

/-- Text that would not be read as one plain scalar. -/
def hasIndicator (cs : List Char) : Bool :=
  match cs with
  | [] => false
  | c :: rest =>
    ['-', '-', '-'].isPrefixOf cs || ['.', '.', '.'].isPrefixOf cs || isIndicator c ||
      ((c == '?' || c == ':' || c == '-') && isBlankOrEnd rest.head?) || hasInnerIndicator cs

def hasPair (p q : Char → Bool) : List Char → Bool
  | a :: b :: cs => (p a && q b) || hasPair p q (b :: cs)
  | _ => false

/-- A blank stands before a line's end, or a character needs an escape: double quotes have to be
used. -/
def needsEscapes (cs : List Char) : Bool :=
  cs.any (fun c => !isPrintable c) || hasPair (· == ' ') isBreak cs

def isPlain (cs : List Char) : Bool :=
  !needsEscapes cs && !cs.any isBreak && cs.head? != some ' ' && cs.getLast? != some ' ' &&
    !hasIndicator cs

def isSingleQuotable (cs : List Char) : Bool :=
  !needsEscapes cs && !hasPair isBreak (· == ' ') cs

def isBlock (cs : List Char) : Bool :=
  !needsEscapes cs && cs.getLast? != some ' '

def margin (indent : Nat) : List Char :=
  List.replicate indent ' '

/-- Lines of text behind a margin; `fresh` tells that a line starts here. Empty lines get no margin. -/
def behindMargin (indent : Nat) : Bool → List Char → List Char
  | _, [] => []
  | fresh, c :: cs =>
    if isBreak c then c :: behindMargin indent true cs
    else (if fresh then margin indent else []) ++ c :: behindMargin indent false cs

def singleQuoted (indent : Nat) (cs : List Char) : List Char :=
  let doubled := cs.flatMap fun c => if c = '\'' then ['\'', '\''] else [c]
  let closing := if cs.getLast?.any isBreak then margin indent else []
  '\'' :: behindMargin indent false doubled ++ closing ++ ['\'']

def upperHex (count n : Nat) : List Char :=
  (List.range count).reverse.map fun i => (Text.Hex.digit ((n >>> (4 * i)) % 16)).toUpper

def escaped (c : Char) : List Char :=
  match c with
  | '\x00' => ['\\', '0']
  | '\x07' => ['\\', 'a']
  | '\x08' => ['\\', 'b']
  | '\t' => ['\\', 't']
  | '\n' => ['\\', 'n']
  | '\x0b' => ['\\', 'v']
  | '\x0c' => ['\\', 'f']
  | '\r' => ['\\', 'r']
  | '\x1b' => ['\\', 'e']
  | '"' => ['\\', '"']
  | '\\' => ['\\', '\\']
  | '\u0085' => ['\\', 'N']
  | '\u2028' => ['\\', 'L']
  | '\u2029' => ['\\', 'P']
  | c =>
    if isPrintable c then [c]
    else if c.toNat ≤ 0xFF then ['\\', 'x'] ++ upperHex 2 c.toNat
    else if c.toNat ≤ 0xFFFF then ['\\', 'u'] ++ upperHex 4 c.toNat
    else ['\\', 'U'] ++ upperHex 8 c.toNat

def doubleQuoted (cs : List Char) : List Char :=
  '"' :: cs.flatMap escaped ++ ['"']

/-- The sign that keeps the line ends behind a block as they are: none for one line end. -/
def chomping (cs : List Char) : List Char :=
  match cs.reverse with
  | a :: b :: _ => if !isBreak a then ['-'] else if isBreak b then ['+'] else []
  | [a] => if isBreak a then ['+'] else ['-']
  | [] => ['-']

def literalBlock (indent : Nat) (cs : List Char) : List Char :=
  let hint := if cs.head?.any fun c => c == ' ' || isBreak c then ['2'] else []
  '|' :: hint ++ chomping cs ++ '\n' :: behindMargin indent true cs

/-- A string as a scalar whose further lines stand at an indentation. Simple keys stand on one line. -/
def scalarText (indent : Nat) (isSimpleKey : Bool) (s : String) : String :=
  let cs := s.toList
  let quoted := if isSingleQuotable cs then singleQuoted indent cs else doubleQuoted cs
  String.ofList <|
    if isAmbiguous s then quoted
    else if cs.contains '\n' then
      if isBlock cs && !isSimpleKey then literalBlock indent cs else doubleQuoted cs
    else if isPlain cs then cs
    else quoted

def isSimpleKey (s : String) : Bool :=
  !s.toList.any isBreak && s.utf8ByteSize ≤ 128

end PolicyGate.Data.Yaml
