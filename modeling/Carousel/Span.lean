/-
# Spans of time

A span is a whole number of seconds and a remainder in nanoseconds. The seconds
are a 64-bit word, and a span that would need more of them cannot be built. Its
text uses the largest unit that does not leave the span below one, and writes
the rest as an exact decimal fraction without trailing zeros.
-/

import Carousel.Ending

namespace Carousel

/-- A length of time with nanosecond resolution. -/
structure Span where
  secs : UInt64
  nanos : Nat
  nanos_lt : nanos < 1000000000
  deriving DecidableEq

namespace Span

def nanosPerMicro : Nat := 1000

def nanosPerMilli : Nat := 1000000

def nanosPerSec : Nat := 1000000000

/-- The span of so many seconds and nanoseconds. Full seconds among the
nanoseconds are carried over, which panics if the sum is no word. -/
def ofParts (secs : UInt64) (nanos : Nat) : Ending Span :=
  if secs.toNat + nanos / nanosPerSec < UInt64.size then
    .returned
      { secs := secs + .ofNat (nanos / nanosPerSec)
        nanos := nanos % nanosPerSec
        nanos_lt := Nat.mod_lt _ (by decide) }
  else .panicked "overflow in Duration::new"

/-- The span of so many milliseconds. -/
def ofMillis (millis : UInt64) : Span where
  secs := millis / 1000
  nanos := millis.toNat % 1000 * nanosPerMilli
  nanos_lt := by
    have := Nat.mod_lt millis.toNat (by decide : 0 < 1000)
    simp only [nanosPerMilli]
    omega

/-- The length in nanoseconds. -/
def totalNanos (span : Span) : Nat :=
  span.secs.toNat * nanosPerSec + span.nanos

/-- The digits behind the point of `rest / 10 ^ places`, without trailing
zeros. -/
def fractionDigits (places rest : Nat) : List Char :=
  let digits := Nat.toDigits 10 rest
  let padded := List.replicate (places - digits.length) '0' ++ digits
  (padded.reverse.dropWhile (· = '0')).reverse

/-- The text of `whole + rest / 10 ^ places` units. -/
def decimal (whole places rest : Nat) (unit : String) : String :=
  let shown := fractionDigits places rest
  let point := if shown.isEmpty then "" else "."
  toString whole ++ point ++ String.ofList shown ++ unit

/-- The text of a span, such as `1.5µs` or `12.34ms`. -/
def text (span : Span) : String :=
  if 0 < span.secs then decimal span.secs.toNat 9 span.nanos "s"
  else if nanosPerMilli ≤ span.nanos then
    decimal (span.nanos / nanosPerMilli) 6 (span.nanos % nanosPerMilli) "ms"
  else if nanosPerMicro ≤ span.nanos then
    decimal (span.nanos / nanosPerMicro) 3 (span.nanos % nanosPerMicro) "µs"
  else decimal span.nanos 0 0 "ns"

end Span

end Carousel
