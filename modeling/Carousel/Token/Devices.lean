/-
# Clock, nonces and sleep of generators

A generator mints tokens with three devices: a clock, a source of nonces, and a
way to sleep. What a device does is a function of how often it was used before,
which covers every clock and every source, those that fail included. How far the
devices have been used is a value of its own, since several generators may share
one set of devices.
-/

import Carousel.Ending
import Carousel.Latch
import Carousel.Span

namespace Carousel

/-- What happens when the clock is read. -/
inductive Reading
  | time (millis : UInt64)
  /-- Somebody raises an interrupt just before the clock is read. -/
  | interruptedTime (millis : UInt64)
  | failure (message : String)
  deriving DecidableEq

/-- What happens when a prepared sleep is asked for. -/
inductive Nap
  | rested
  | interrupted
  | failure (message : String)
  deriving DecidableEq

/-- What happens when a nonce is drawn. -/
inductive Draw
  | nonce (value : UInt32)
  | failure (message : String)
  deriving DecidableEq

/-- How a generator sleeps: as prepared, on a latch that others may raise, or
undisturbed. -/
inductive Bedding
  | prepared
  | latched
  | plain
  deriving DecidableEq

/-- A clock, a way to sleep and a source of nonces, each by the number of
earlier uses. -/
structure Devices where
  reading : Nat → Reading
  nap : Nat → Nap
  draw : Nat → Draw
  bedding : Bedding

/-- How far a set of devices has been used. -/
structure Usage where
  reads : Nat := 0
  draws : Nat := 0
  naps : Array Span := #[]
  restores : Nat := 0
  latch : Latch := {}
  deriving DecidableEq

namespace Devices

variable (devices : Devices) (usage : Usage)

/-- Read the clock. A failing read counts as well. -/
def readClock : Ending UInt64 × Usage :=
  let read := { usage with reads := usage.reads + 1 }
  match devices.reading usage.reads with
  | .time millis => (.returned millis, read)
  | .interruptedTime millis =>
    (.returned millis, { read with latch := read.latch.raise })
  | .failure message => (.panicked message, read)

/-- Draw a nonce. A failing draw counts as well. -/
def drawNonce : Ending UInt32 × Usage :=
  let drawn := { usage with draws := usage.draws + 1 }
  match devices.draw usage.draws with
  | .nonce value => (.returned value, drawn)
  | .failure message => (.panicked message, drawn)

/-- Sleep. Tells whether the sleep was interrupted. -/
def sleep (span : Span) : Ending Bool × Usage :=
  let asleep := { usage with naps := usage.naps.push span }
  match devices.bedding with
  | .plain => (.returned false, asleep)
  | .latched =>
    let (interrupted, latch) := usage.latch.sleep
    (.returned interrupted, { asleep with latch })
  | .prepared =>
    match devices.nap usage.naps.size with
    | .rested => (.returned false, asleep)
    | .interrupted => (.returned true, asleep)
    | .failure message => (.panicked message, asleep)

/-- Raise again an interrupt that a sleep has observed. Only a latch keeps it. -/
def restore : Usage :=
  let restored := { usage with restores := usage.restores + 1 }
  match devices.bedding with
  | .latched => { restored with latch := restored.latch.raise }
  | _ => restored

end Devices

end Carousel
