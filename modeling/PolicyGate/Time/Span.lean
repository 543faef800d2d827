/-! # Lengths of time

A span is a signed length of time; its second and its fraction carry the same sign. -/

namespace PolicyGate.Time

def nanosPerSecond : Nat := 1000000000

structure Span where
  nanoseconds : Int
deriving DecidableEq, Repr

namespace Span

def wholeSeconds (s : Span) : Int :=
  s.nanoseconds.tdiv nanosPerSecond

def fraction (s : Span) : Int :=
  s.nanoseconds.tmod nanosPerSecond

def ofSeconds (n : Int) : Span :=
  ⟨n * nanosPerSecond⟩

def longest : Span :=
  ⟨9223372036854775807 * 1000000⟩

instance : Neg Span := ⟨fun s => ⟨-s.nanoseconds⟩⟩

end Span
end PolicyGate.Time
