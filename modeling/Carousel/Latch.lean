/-
# Interrupts and the sleeps that they cut short

An interrupt is latched: it stays raised until a sleep observes it, which also
lowers it. Raising a raised latch changes nothing, so any number of interrupts
between two sleeps is observed once. A sleep looks twice, before and after it
rests, and does not rest at all if the first look finds the latch raised.

Sleeps and interrupters come in families. Every clone of a sleep, and every
interrupter of it and their clones, share the latch of the sleep from which they
descend; a fresh sleep starts a family of its own.
-/

namespace Carousel

/-- A pending interrupt, or none. -/
structure Latch where
  raised : Bool := false
  deriving DecidableEq

namespace Latch

/-- Raise an interrupt. -/
def raise (_ : Latch) : Latch where
  raised := true

/-- Observe the latch and lower it. -/
def observe (latch : Latch) : Bool × Latch :=
  (latch.raised, { raised := false })

/-- Sleep while nobody raises an interrupt. Tells whether one was pending. -/
def sleep (latch : Latch) : Bool × Latch :=
  let (early, lowered) := latch.observe
  if early then (true, lowered) else lowered.observe

end Latch

/-- Latches, and which of them each sleep and each interrupter belongs to. -/
structure Sleepers where
  latches : List Latch
  sleeps : List Nat
  interrupters : List Nat
  deriving DecidableEq

namespace Sleepers

/-- One sleep and one interrupter of it. -/
def initial : Sleepers where
  latches := [{}]
  sleeps := [0]
  interrupters := [0]

/-- What can be done with sleeps and interrupters, each named by the order in
which it came into being. -/
inductive Step
  | newSleep
  | cloneSleep (sleep : Nat)
  | newInterrupter (sleep : Nat)
  | cloneInterrupter (interrupter : Nat)
  | interrupt (interrupter : Nat)
  | restore (sleep : Nat)
  /-- A sleep during which the listed interrupters raise an interrupt each. -/
  | sleep (sleep : Nat) (meanwhile : List Nat)
  /-- A sleep that cannot be interrupted. -/
  | plainSleep
  deriving DecidableEq

/-- What a step answers. -/
inductive Answer
  | created (index : Nat)
  | done
  | slept (interrupted : Bool)
  deriving DecidableEq

/-- The family of a sleep. One that does not exist counts as the first. -/
def familyOfSleep (sleepers : Sleepers) (sleep : Nat) : Nat :=
  sleepers.sleeps.getD sleep 0

/-- The family of an interrupter. -/
def familyOfInterrupter (sleepers : Sleepers) (interrupter : Nat) : Nat :=
  sleepers.interrupters.getD interrupter 0

/-- Raise the latch of a family. -/
def raise (sleepers : Sleepers) (family : Nat) : Sleepers :=
  { sleepers with latches := sleepers.latches.modify family Latch.raise }

/-- Observe the latch of a family and lower it. -/
def observe (sleepers : Sleepers) (family : Nat) : Bool × Sleepers :=
  let (interrupted, lowered) := (sleepers.latches.getD family {}).observe
  (interrupted,
    { sleepers with latches := sleepers.latches.set family lowered })

/-- Raise an interrupt through each of several interrupters. -/
def raiseAll (sleepers : Sleepers) (interrupters : List Nat) : Sleepers :=
  interrupters.foldl
    (fun sleepers interrupter =>
      sleepers.raise (sleepers.familyOfInterrupter interrupter))
    sleepers

/-- Sleep while other handles raise interrupts. These come too late for the
first look, and are left pending if the sleep ended there. -/
def sleep (sleepers : Sleepers) (index : Nat) (meanwhile : List Nat) :
    Bool × Sleepers :=
  let family := sleepers.familyOfSleep index
  let (early, lowered) := sleepers.observe family
  let raised := lowered.raiseAll meanwhile
  if early then (true, raised) else raised.observe family

/-- Carry out one step. -/
def step (sleepers : Sleepers) : Step → Answer × Sleepers
  | .newSleep =>
    (.created sleepers.sleeps.length,
      { sleepers with
        latches := sleepers.latches ++ [{}]
        sleeps := sleepers.sleeps ++ [sleepers.latches.length] })
  | .cloneSleep index =>
    (.created sleepers.sleeps.length,
      { sleepers with
        sleeps := sleepers.sleeps ++ [sleepers.familyOfSleep index] })
  | .newInterrupter index =>
    (.created sleepers.interrupters.length,
      { sleepers with
        interrupters :=
          sleepers.interrupters ++ [sleepers.familyOfSleep index] })
  | .cloneInterrupter index =>
    (.created sleepers.interrupters.length,
      { sleepers with
        interrupters :=
          sleepers.interrupters ++ [sleepers.familyOfInterrupter index] })
  | .interrupt index =>
    (.done, sleepers.raise (sleepers.familyOfInterrupter index))
  | .restore index => (.done, sleepers.raise (sleepers.familyOfSleep index))
  | .sleep index meanwhile =>
    let (interrupted, after) := sleepers.sleep index meanwhile
    (.slept interrupted, after)
  | .plainSleep => (.slept false, sleepers)

/-- Carry out steps one after the other. -/
def run : List Step → Sleepers → List Answer × Sleepers
  | [], sleepers => ([], sleepers)
  | first :: rest, sleepers =>
    let (answer, after) := sleepers.step first
    let (answers, final) := run rest after
    (answer :: answers, final)

/-- The wording of an interrupted sleep. -/
def interruptedMessage : String := "sleep interrupted"

end Sleepers

end Carousel
