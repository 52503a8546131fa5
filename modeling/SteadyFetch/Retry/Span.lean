import SteadyFetch.Word

set_option autoImplicit false

/-! # Spans of time

Spans are counted in nanoseconds and limited: the seconds fit in sixty-four bits. Multiplying stops
at the longest span. -/

namespace SteadyFetch

/-- Nanoseconds in a second. -/
def nanosPerSecond : Nat := 1000000000

/-- A span of time shorter than `2 ^ 64` seconds. -/
structure Span where
  nanos : Nat
  nanos_lt : nanos < Word.limit64 * nanosPerSecond
  deriving DecidableEq, Repr

namespace Span

/-- No time at all. -/
def zero : Span := ⟨0, by decide⟩

/-- The longest span. -/
def longest : Span := ⟨Word.limit64 * nanosPerSecond - 1, by decide⟩

/-- A number of nanoseconds, if it is not too long. -/
def ofNanos? (n : Nat) : Option Span :=
  if h : n < Word.limit64 * nanosPerSecond then some ⟨n, h⟩ else none

/-- A number of nanoseconds, cut at the longest span. -/
def saturating (n : Nat) : Span := (ofNanos? n).getD longest

/-- A number of whole seconds, cut at the longest span. -/
def ofSeconds (n : Nat) : Span := saturating (n * nanosPerSecond)

/-- A multiple of a span, cut at the longest span. -/
def scale (s : Span) (factor : Nat) : Span := saturating (s.nanos * factor)

/-- The shorter of two spans. -/
def shorter (a b : Span) : Span := if a.nanos ≤ b.nanos then a else b

/-- The whole seconds of a span. -/
def seconds (s : Span) : Nat := s.nanos / nanosPerSecond

/-- The nanoseconds after the whole seconds of a span. -/
def subsecondNanos (s : Span) : Nat := s.nanos % nanosPerSecond

end Span

end SteadyFetch
