/-
# Generators of tokens

A generator hands out one token at a time. A call first waits until the clock
reads another millisecond than the one recorded by the call before, and records
it; then it reads the clock once more for the token and draws the nonce. The
second reading may thus be later than the recorded one.

The wait sleeps for one tick between readings. Once a sleep is interrupted the
wait goes on without sleeping, and the call raises the interrupt again when it
has its token. A clock that stands still is waited for without limit, so a wait
is given a patience: the number of readings after which an unfinished wait is
given up as undecided. More patience never changes a decided call.

A call holds the lock of its generator throughout. If a device panics meanwhile,
or the nonce is out of range, the lock is poisoned: whoever shares it is refused
from then on. What the call had recorded before stays recorded.
-/

import Carousel.Fault
import Carousel.Token.Basic
import Carousel.Token.Devices

namespace Carousel

/-- How long a wait sleeps between two readings of the clock. -/
def clockTick : Span :=
  .ofMillis 1

/-- The state that the clones of a generator share. No recorded millisecond is
kept as zero. -/
structure Generator where
  last : UInt64 := 0
  poisoned : Bool := false
  deriving DecidableEq

/-- A token, and whether the wait for the clock was interrupted. -/
structure Minted where
  token : Token
  interrupted : Bool
  deriving DecidableEq

namespace Generator

variable (devices : Devices)

/-- Wait until the clock reads another millisecond than `last`, its latest
reading being `now`. Hands back the new reading, and whether a sleep was
interrupted. -/
def wait (last : UInt64) : (patience : Nat) → (interrupted : Bool) →
    (now : UInt64) → Usage → Option (Ending (UInt64 × Bool) × Usage)
  | patience, interrupted, now, usage =>
    if now ≠ last then some (.returned (now, interrupted), usage)
    else
      match patience with
      | 0 => none
      | patience + 1 =>
        let (slept, rested) :=
          if interrupted then (.returned true, usage)
          else devices.sleep usage clockTick
        match slept with
        | .panicked message => some (.panicked message, rested)
        | .returned interrupted =>
          match devices.readClock rested with
          | (.panicked message, read) => some (.panicked message, read)
          | (.returned now, read) => wait last patience interrupted now read

/-- Read the clock, and wait until it reads another millisecond than `last`. -/
def awaitTick (last : UInt64) (patience : Nat) (usage : Usage) :
    Option (Ending (UInt64 × Bool) × Usage) :=
  match devices.readClock usage with
  | (.panicked message, read) => some (.panicked message, read)
  | (.returned now, read) => wait devices last patience false now read

/-- Read the clock, draw a nonce, and make a token of both. -/
def assemble (name : String) (usage : Usage) : Ending Token × Usage :=
  match devices.readClock usage with
  | (.panicked message, read) => (.panicked message, read)
  | (.returned timestamp, read) =>
    match devices.drawNonce read with
    | (.panicked message, drawn) => (.panicked message, drawn)
    | (.returned nonce, drawn) => (Token.ofParts name timestamp nonce, drawn)

/-- Poison the lock. -/
def poison (generator : Generator) : Generator :=
  { generator with poisoned := true }

/-- Mint a token under the lock, unless the clock stands still for longer than
`patience` readings. -/
def mint (patience : Nat) (name : String) (generator : Generator)
    (usage : Usage) :
    Option (Ending (Except Fault Minted) × Generator × Usage) :=
  if generator.poisoned then
    some (.returned (.error .lockPoisoned), generator, usage)
  else
    match awaitTick devices generator.last patience usage with
    | none => none
    | some (.panicked message, waited) =>
      some (.panicked message, generator.poison, waited)
    | some (.returned (now, interrupted), waited) =>
      let recorded := { generator with last := now }
      match assemble devices name waited with
      | (.panicked message, used) =>
        some (.panicked message, recorded.poison, used)
      | (.returned token, used) =>
        some (.returned (.ok ⟨token, interrupted⟩), recorded,
          if interrupted then devices.restore used else used)

/-- The recorded millisecond, zero if there is none. -/
def lastTimestamp (generator : Generator) : Except Fault UInt64 :=
  if generator.poisoned then .error .lockPoisoned else .ok generator.last

/-- Turn a refusal into a panic of the caller. -/
def insist : Ending (Except Fault Minted) → Ending Minted
  | .returned (.ok minted) => .returned minted
  | .returned (.error _) =>
    .panicked "called `Result::unwrap()` on an `Err` value: LockPoisoned"
  | .panicked message => .panicked message

end Generator

end Carousel
