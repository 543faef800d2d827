import PolicyGate.Text.Blank
import PolicyGate.Text.Decimal
import PolicyGate.Time.Span
/-! # Periods

A period is a length of time that is not negative. Its text is a row of numbers with units, such as
`1h 30m`; the parts add up. -/

namespace PolicyGate.Time

structure Period where
  nanoseconds : Nat
deriving DecidableEq, Repr

inductive PeriodUnit
  | nanosecond
  | microsecond
  | millisecond
  | second
  | minute
  | hour
  | day
  | week
  | month
  | year
deriving DecidableEq, Repr

namespace PeriodUnit

def ofWord? (word : String) : Option PeriodUnit :=
  if word ∈ ["ns", "nsec", "nanos"] then some nanosecond
  else if word ∈ ["us", "µs", "usec"] then some microsecond
  else if word ∈ ["ms", "msec", "millis"] then some millisecond
  else if word ∈ ["s", "sec", "secs", "second", "seconds"] then some second
  else if word ∈ ["m", "min", "mins", "minute", "minutes"] then some minute
  else if word ∈ ["h", "hr", "hrs", "hour", "hours"] then some hour
  else if word ∈ ["d", "day", "days"] then some day
  else if word ∈ ["w", "wk", "wks", "week", "weeks"] then some week
  else if word ∈ ["M", "month", "months"] then some month
  else if word ∈ ["y", "yr", "yrs", "year", "years"] then some year
  else none

/-- The nanoseconds of one unit. A month has 30.44 days and a year 365.25. -/
def size : PeriodUnit → Nat
  | nanosecond => 1
  | microsecond => 1000
  | millisecond => 1000000
  | second => nanosPerSecond
  | minute => 60 * nanosPerSecond
  | hour => 3600 * nanosPerSecond
  | day => 86400 * nanosPerSecond
  | week => 604800 * nanosPerSecond
  | month => 2630016 * nanosPerSecond
  | year => 31557600 * nanosPerSecond

/-- A whole number of units is counted in seconds if the unit has any, and in nanoseconds else. -/
def wholeGrain (u : PeriodUnit) : Nat :=
  if u.size < nanosPerSecond then 1 else nanosPerSecond

/-- A fraction of a unit comes to whole seconds from hours on, and to whole nanoseconds below. -/
def fractionGrain (u : PeriodUnit) : Nat :=
  if u.size < 3600 * nanosPerSecond then 1 else nanosPerSecond

end PeriodUnit

namespace Period

def ofSeconds (n : Nat) : Period :=
  ⟨n * nanosPerSecond⟩

def countLimit : Nat := UInt64.size

structure Fraction where
  numerator : Nat
  denominator : Nat
deriving DecidableEq, Repr

def add? (p : Period) (count grain : Nat) : Option Period :=
  let sum := p.nanoseconds + count * grain
  let carried := if grain = 1 then p.nanoseconds % nanosPerSecond + count else count
  if carried < countLimit ∧ sum / nanosPerSecond < countLimit then some ⟨sum⟩ else none

/-- Adds a number of units. A fraction that does not come to whole grains is refused, and nanoseconds
have no fractions. -/
def addUnits? (p : Period) (whole : Nat) (fraction : Option Fraction) (u : PeriodUnit) :
    Option Period := do
  let p ← p.add? (whole * (u.size / u.wholeGrain)) u.wholeGrain
  match fraction with
  | none => return p
  | some f =>
    let count := f.numerator * (u.size / u.fractionGrain)
    if u = .nanosecond ∨ countLimit ≤ count ∨ count % f.denominator ≠ 0 then none
    else p.add? (count / f.denominator) u.fractionGrain

def spacedDigits (cs : List Char) : List Char × List Char :=
  let run := cs.takeWhile fun c => c.isDigit || Text.isBlank c
  (run.filter Char.isDigit, cs.drop run.length)

def fraction? : List Char → Option (Option Fraction × List Char)
  | '.' :: cs =>
    let (digits, rest) := spacedDigits cs
    if digits = [] ∨ countLimit ≤ Nat.pow 10 digits.length then none
    else some (some ⟨Text.digitsValue digits, Nat.pow 10 digits.length⟩, rest)
  | cs => some (none, cs)

def isUnitLetter (c : Char) : Bool :=
  c.isAlpha || c = 'µ'

def part? (p : Period) (cs : List Char) : Option (Period × List Char) := do
  let (digits, rest) := spacedDigits cs
  let whole := Text.digitsValue digits
  if digits = [] ∨ countLimit ≤ whole then none
  else
    let (fraction, rest) ← fraction? rest
    let word := rest.takeWhile isUnitLetter
    let u ← PeriodUnit.ofWord? (String.ofList word)
    return (← p.addUnits? whole fraction u, rest.drop word.length)

def parts? : Nat → Period → List Char → Option Period
  | 0, _, _ => none
  | fuel + 1, p, cs => do
    let (p, rest) ← part? p cs
    if rest.all Text.isBlank then return p else parts? fuel p rest

/-- Reads a period. A lone zero needs no unit. -/
def ofText? (s : String) : Option Period :=
  if s = "0" then some ⟨0⟩ else parts? s.length ⟨0⟩ s.toList

def item (n : Nat) (unit : String) : List String :=
  if n = 0 then [] else [toString n ++ unit]

def wordItem (n : Nat) (unit : String) : List String :=
  item n (if n = 1 then unit else unit ++ "s")

def text (p : Period) : String :=
  let nanos := p.nanoseconds % nanosPerSecond
  let seconds := p.nanoseconds / nanosPerSecond
  let inYear := seconds % 31557600
  let inMonth := inYear % 2630016
  let inDay := inMonth % 86400
  let items := wordItem (seconds / 31557600) "year" ++ wordItem (inYear / 2630016) "month" ++
    wordItem (inMonth / 86400) "day" ++ item (inDay / 3600) "h" ++ item (inDay % 3600 / 60) "m" ++
    item (inDay % 60) "s" ++ item (nanos / 1000000) "ms" ++ item (nanos / 1000 % 1000) "us" ++
    item (nanos % 1000) "ns"
  if items = [] then "0s" else String.intercalate " " items

def wholeSeconds (p : Period) : Nat :=
  p.nanoseconds / nanosPerSecond

def toSpan? (p : Period) : Option Span :=
  if (p.nanoseconds : Int) ≤ Span.longest.nanoseconds then some ⟨p.nanoseconds⟩ else none

end Period
end PolicyGate.Time
