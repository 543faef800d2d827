import PolicyGate.Time.Calendar
import PolicyGate.Time.Span
/-! # Instants

An instant is a second counted from 1970-01-01T00:00:00Z and a number of nanoseconds after it. In the
last second of a minute the nanoseconds may go on through a leap second; that they do so in any other
second, as where they are set by hand, is left out: no clock and no text gives such an instant. Instants
lie in the years -262143 to 262142. -/

namespace PolicyGate.Time

def earliestSecond : Int := -8334601228800

def latestSecond : Int := 8210266876799

/-- A second of the supported years, with nanoseconds that pass one second only where a leap second
can stand. -/
def IsInstant (seconds : Int) (nanos : Nat) : Prop :=
  earliestSecond ≤ seconds ∧ seconds ≤ latestSecond ∧ nanos < 2 * nanosPerSecond ∧
    (nanosPerSecond ≤ nanos → seconds % 60 = 59)

instance (seconds : Int) (nanos : Nat) : Decidable (IsInstant seconds nanos) := by
  unfold IsInstant; infer_instance

structure Instant where
  seconds : Int
  nanos : Nat
  isInstant : IsInstant seconds nanos := by decide
deriving DecidableEq, Repr

namespace Instant

def earliest : Instant where
  seconds := earliestSecond
  nanos := 0

/-- The latest instant outside a leap second. -/
def latest : Instant where
  seconds := latestSecond
  nanos := 999999999

def of? (seconds : Int) (nanos : Nat) : Option Instant :=
  if h : IsInstant seconds nanos then some ⟨seconds, nanos, h⟩ else none

instance : LT Instant where
  lt a b := a.seconds < b.seconds ∨ (a.seconds = b.seconds ∧ a.nanos < b.nanos)

instance : LE Instant where
  le a b := a.seconds < b.seconds ∨ (a.seconds = b.seconds ∧ a.nanos ≤ b.nanos)

instance (a b : Instant) : Decidable (a < b) :=
  inferInstanceAs (Decidable (_ ∨ _))

instance (a b : Instant) : Decidable (a ≤ b) :=
  inferInstanceAs (Decidable (_ ∨ _))

instance : Max Instant where
  max a b := if a ≤ b then b else a

/-- A second and a number of nanoseconds of either sign, brought to a number below one second. -/
def normalized? (seconds : Int) (nanos : Int) : Option Instant :=
  of? (seconds + nanos / nanosPerSecond) (nanos % nanosPerSecond).toNat

/-- The instant that lies a span away, if it is in range. From inside a leap second a step of less than
a second may stay there; a longer step starts from the second before or after it, whichever lies in its
direction. -/
def shift? (t : Instant) (span : Span) : Option Instant :=
  let step := span.wholeSeconds
  let part := span.fraction
  if t.nanos < nanosPerSecond then
    normalized? (t.seconds + step) (t.nanos + part)
  else if 0 < step ∨ (0 < part ∧ 2 * (nanosPerSecond : Int) ≤ t.nanos + part) then
    normalized? (t.seconds + step) (t.nanos - nanosPerSecond + part)
  else if step < 0 then
    normalized? (t.seconds + 1 + step) (t.nanos - nanosPerSecond + part)
  else
    of? t.seconds (t.nanos + part).toNat

/-- The instant a span later, or the latest one when that is out of range. -/
def later (t : Instant) (span : Span) : Instant :=
  (t.shift? span).getD latest

def earlier (t : Instant) (span : Span) : Instant :=
  (t.shift? (-span)).getD earliest

end Instant

instance : Inhabited Instant := ⟨⟨0, 0, by decide⟩⟩

end PolicyGate.Time
