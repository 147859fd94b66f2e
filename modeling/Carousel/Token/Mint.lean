/-
# Mints

A mint holds any number of generators on one set of devices. Generators are
named in the order in which they came into being, and clones share the state of
the generator from which they descend.
-/

import Carousel.Token.Generator

namespace Carousel

/-- Generators by family, the family of each named generator, and the devices
that all of them share. -/
structure Mint where
  families : List Generator
  members : List Nat
  usage : Usage
  deriving DecidableEq

namespace Mint

/-- One fresh generator on unused devices. -/
def initial : Mint where
  families := [{}]
  members := [0]
  usage := {}

/-- A call at a mint. -/
inductive Call
  /-- Mint a token, and be told if the lock is poisoned. -/
  | tryMint (generator : Nat) (name : String)
  /-- Mint a token, and panic if the lock is poisoned. -/
  | mint (generator : Nat) (name : String)
  | lastTimestamp (generator : Nat)
  /-- A generator of its own on the same devices. -/
  | newGenerator
  | cloneGenerator (generator : Nat)
  /-- Raise an interrupt on the latch of the devices. -/
  | interrupt
  /-- Sleep for no time on the latch of the devices. -/
  | observe
  deriving DecidableEq

/-- What a call answers. -/
inductive Answer
  | minted (ending : Ending (Except Fault Minted))
  | last (timestamp : Except Fault UInt64)
  | created (index : Nat)
  | done
  | observed (interrupted : Bool)

variable (devices : Devices)

/-- The family of a generator. One that does not exist counts as the first. -/
def familyOf (mint : Mint) (generator : Nat) : Nat :=
  mint.members.getD generator 0

/-- The state of a generator. -/
def state (mint : Mint) (generator : Nat) : Generator :=
  mint.families.getD (mint.familyOf generator) {}

/-- Have a generator mint a token. -/
def strike (patience : Nat) (mint : Mint) (generator : Nat) (name : String) :
    Option (Ending (Except Fault Minted) × Mint) :=
  match (mint.state generator).mint devices patience name mint.usage with
  | none => none
  | some (ending, after, usage) =>
    some (ending,
      { mint with
        families := mint.families.set (mint.familyOf generator) after
        usage })

/-- Carry out one call, unless it waits for longer than `patience` readings. -/
def perform (patience : Nat) (mint : Mint) : Call → Option (Answer × Mint)
  | .tryMint generator name =>
    (mint.strike devices patience generator name).map fun (ending, after) =>
      (.minted ending, after)
  | .mint generator name =>
    (mint.strike devices patience generator name).map fun (ending, after) =>
      (.minted ((Generator.insist ending).map .ok), after)
  | .lastTimestamp generator =>
    some (.last (mint.state generator).lastTimestamp, mint)
  | .newGenerator =>
    some (.created mint.members.length,
      { mint with
        families := mint.families ++ [{}]
        members := mint.members ++ [mint.families.length] })
  | .cloneGenerator generator =>
    some (.created mint.members.length,
      { mint with members := mint.members ++ [mint.familyOf generator] })
  | .interrupt =>
    some (.done,
      { mint with
        usage := { mint.usage with latch := mint.usage.latch.raise } })
  | .observe =>
    let (interrupted, latch) := mint.usage.latch.sleep
    some (.observed interrupted,
      { mint with usage := { mint.usage with latch } })

/-- Carry out calls one after the other, unless one of them waits for longer
than `patience` readings. -/
def performAll (patience : Nat) :
    List Call → Mint → Option (List Answer × Mint)
  | [], mint => some ([], mint)
  | call :: rest, mint =>
    match mint.perform devices patience call with
    | none => none
    | some (answer, after) =>
      match performAll patience rest after with
      | none => none
      | some (answers, final) => some (answer :: answers, final)

end Mint

end Carousel
