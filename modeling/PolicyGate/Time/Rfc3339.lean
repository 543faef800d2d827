import PolicyGate.Text.Blank
import PolicyGate.Text.Decimal
import PolicyGate.Time.Instant
/-! # Dates and times as text

Instants are written in the form of RFC 3339, in UTC. Two readers accept them: the exact one takes a
four-digit year and a full offset; the lenient one also takes signed years, single digits and blanks
between the parts. -/

namespace PolicyGate.Time

/-- The time of day and the date of an instant; `second` is 60 inside a leap second. -/
structure Clock where
  date : Date
  hour : Nat
  minute : Nat
  second : Nat
  nanos : Nat
deriving DecidableEq, Repr

def secondsPerDay : Int := 86400

def Instant.clock (t : Instant) : Clock :=
  let ofDay := (t.seconds % secondsPerDay).toNat
  let leap := nanosPerSecond ≤ t.nanos
  { date := Date.ofDays (t.seconds / secondsPerDay)
    hour := ofDay / 3600
    minute := ofDay / 60 % 60
    second := ofDay % 60 + if leap then 1 else 0
    nanos := if leap then t.nanos - nanosPerSecond else t.nanos }

/-- The instant that a clock shows at an offset, in seconds, ahead of UTC. A sixtieth second is the
leap second after the fifty-ninth. -/
def Clock.instant? (c : Clock) (offset : Int) : Option Instant :=
  if c.date.Exists ∧ c.hour < 24 ∧ c.minute < 60 ∧ c.second ≤ 60 ∧ offset.natAbs < 86400 then
    let second := if c.second = 60 then 59 else c.second
    let nanos := if c.second = 60 then c.nanos + nanosPerSecond else c.nanos
    let ofDay : Int := c.hour * 3600 + c.minute * 60 + second
    if -262143 ≤ c.date.year ∧ c.date.year ≤ 262142 then
      Instant.of? (c.date.toDays * secondsPerDay + ofDay - offset) nanos
    else none
  else none

/-- Years from 0 to 9999 have four digits; others carry a sign in front of four or more. -/
def yearText (year : Int) : String :=
  if 0 ≤ year ∧ year ≤ 9999 then Text.padded 4 year.toNat
  else (if year < 0 then "-" else "+") ++ Text.padded 4 year.natAbs

/-- The fraction of a second with the fewest of 0, 3, 6 and 9 digits that are exact. -/
def fractionText (nanos : Nat) : String :=
  if nanos = 0 then ""
  else if nanos % 1000000 = 0 then "." ++ Text.padded 3 (nanos / 1000000)
  else if nanos % 1000 = 0 then "." ++ Text.padded 6 (nanos / 1000)
  else "." ++ Text.padded 9 nanos

namespace Clock

def dateText (c : Clock) : String :=
  yearText c.date.year ++ "-" ++ Text.padded 2 c.date.month ++ "-" ++ Text.padded 2 c.date.day

def timeText (c : Clock) : String :=
  Text.padded 2 c.hour ++ ":" ++ Text.padded 2 c.minute ++ ":" ++ Text.padded 2 c.second ++
    fractionText c.nanos

end Clock

/-- An instant as in `2026-03-01T12:00:00.120Z`. -/
def Instant.text (t : Instant) : String :=
  t.clock.dateText ++ "T" ++ t.clock.timeText ++ "Z"

/-- An instant as in `2026-03-01 12:00:00.120 UTC`. -/
def Instant.spacedText (t : Instant) : String :=
  t.clock.dateText ++ " " ++ t.clock.timeText ++ " UTC"

namespace Reading

/-- Reads the number that the digits in front write, taking at least `least` and at most `most`. -/
def number? (least most : Nat) (cs : List Char) : Option (Nat × List Char) :=
  let digits := (cs.take most).takeWhile Char.isDigit
  if least ≤ digits.length then some (Text.digitsValue digits, cs.drop digits.length) else none

def char? (c : Char) : List Char → Option (List Char)
  | d :: cs => if c = d then some cs else none
  | [] => none

def separator? : List Char → Option (List Char)
  | c :: cs => if c = 'T' ∨ c = 't' ∨ c = ' ' then some cs else none
  | [] => none

/-- Reads a fraction of a second if a point is in front; digits after the ninth are passed over. -/
def fraction? : List Char → Option (Nat × List Char)
  | '.' :: cs => do
    let (value, rest) ← number? 1 9 cs
    let count := cs.length - rest.length
    return (value * Nat.pow 10 (9 - count), rest.dropWhile Char.isDigit)
  | cs => some (0, cs)

/-- Reads an offset from UTC in seconds: `Z`, or a sign, two digits of hours, what `colon?` reads, and
two digits of minutes. The minus sign U+2212 is a sign too. -/
def offset? (colon? : List Char → Option (List Char)) : List Char → Option (Int × List Char)
  | [] => none
  | c :: cs =>
    if c = 'Z' ∨ c = 'z' then some (0, cs)
    else if c = '+' ∨ c = '-' ∨ c = '\u2212' then do
      let (hours, cs) ← number? 2 2 cs
      let cs ← colon? cs
      let (minutes, cs) ← number? 2 2 cs
      if minutes < 60 then
        let seconds : Int := hours * 3600 + minutes * 60
        return (if c = '+' then seconds else -seconds, cs)
      else none
    else none

def full? (cs : List Char) : Option Instant := do
  let (year, cs) ← number? 4 4 cs
  let cs ← char? '-' cs
  let (month, cs) ← number? 2 2 cs
  let cs ← char? '-' cs
  let (day, cs) ← number? 2 2 cs
  let cs ← separator? cs
  let (hour, cs) ← number? 2 2 cs
  let cs ← char? ':' cs
  let (minute, cs) ← number? 2 2 cs
  let cs ← char? ':' cs
  let (second, cs) ← number? 2 2 cs
  let (nanos, cs) ← fraction? cs
  let (offset, cs) ← offset? (char? ':') cs
  if cs = [] then Clock.instant? ⟨⟨year, month, day⟩, hour, minute, second, nanos⟩ offset else none

/-- Reads a year: any number of digits after a sign, at most four without. -/
def year? : List Char → Option (Int × List Char)
  | '-' :: cs => (number? 1 cs.length cs).map fun (n, cs) => (-(n : Int), cs)
  | '+' :: cs => (number? 1 cs.length cs).map fun (n, cs) => ((n : Int), cs)
  | cs => (number? 1 4 cs).map fun (n, cs) => ((n : Int), cs)

def zone? : List Char → Option (Int × List Char)
  | u :: t :: c :: cs =>
    if [u, t, c].map Char.toUpper = ['U', 'T', 'C'] then some (0, cs) else colonless (u :: t :: c :: cs)
  | cs => colonless cs
where
  colonless (cs : List Char) : Option (Int × List Char) :=
    offset? (fun cs => some (cs.dropWhile fun c => c == ':' || Text.isBlank c)) cs

def lenient? (cs : List Char) : Option Instant := do
  let (year, cs) ← year? (Text.trimStart cs)
  let cs ← char? '-' (Text.trimStart cs)
  let (month, cs) ← number? 1 2 (Text.trimStart cs)
  let cs ← char? '-' (Text.trimStart cs)
  let (day, cs) ← number? 1 2 (Text.trimStart cs)
  let cs ← separator? cs
  let (hour, cs) ← number? 1 2 (Text.trimStart cs)
  let cs ← char? ':' (Text.trimStart cs)
  let (minute, cs) ← number? 1 2 (Text.trimStart cs)
  let cs ← char? ':' (Text.trimStart cs)
  let (second, cs) ← number? 1 2 (Text.trimStart cs)
  let (nanos, cs) ← fraction? cs
  let (offset, cs) ← zone? (Text.trimStart cs)
  if Text.trimStart cs = [] then
    Clock.instant? ⟨⟨year, month, day⟩, hour, minute, second, nanos⟩ offset
  else none

end Reading

/-- Reads the exact form: `YYYY-MM-DD`, a `T` or one space, `HH:MM:SS`, an optional fraction, and `Z`
or an offset `±HH:MM`, with nothing before or after. -/
def Instant.ofText? (s : String) : Option Instant :=
  Reading.full? s.toList

def Instant.ofLenientText? (s : String) : Option Instant :=
  Reading.lenient? s.toList

end PolicyGate.Time
