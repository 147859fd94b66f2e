/-
# Clients that share a server

A pool is a list of clients at work on one server. A schedule names, request by
request, the client that goes next; naming a client that is finished does
nothing. Every way in which the requests of the clients can be interleaved is
one schedule. What a schedule leaves over is carried out by draining the pool,
one client after the other.
-/

import Carousel.Program

namespace Carousel

/-- Clients, each with what is left of its program unless it has panicked, and
the state of the server. -/
structure Pool (face : Interface) (α σ : Type) where
  clients : List (Ending (Program face α))
  state : σ

namespace Pool

variable {face : Interface} {α σ : Type} (serve : Server face σ)

/-- Advance one client by one request. -/
def advance (client : Ending (Program face α)) (state : σ) :
    Ending (Program face α) × σ :=
  match client with
  | .returned (.ask query next) =>
    let (ending, after) := serve query state
    (ending.map next, after)
  | finished => (finished, state)

/-- Advance the client with the given index by one request. -/
def step (pool : Pool face α σ) (index : Nat) : Pool face α σ :=
  match pool.clients[index]? with
  | none => pool
  | some client =>
    let (advanced, state) := advance serve client pool.state
    { clients := pool.clients.set index advanced, state }

/-- Advance clients in the order of a schedule. -/
def run (pool : Pool face α σ) (schedule : List Nat) : Pool face α σ :=
  schedule.foldl (step serve) pool

/-- Let each client finish, one after the other. -/
def drain : List (Ending (Program face α)) → σ → List (Ending α) × σ
  | [], state => ([], state)
  | .panicked message :: rest, state =>
    let (endings, final) := drain rest state
    (.panicked message :: endings, final)
  | .returned program :: rest, state =>
    let (ending, after) := program.run serve state
    let (endings, final) := drain rest after
    (ending :: endings, final)

/-- Follow a schedule and let the clients finish what it leaves over. -/
def complete (pool : Pool face α σ) (schedule : List Nat) :
    List (Ending α) × σ :=
  let left := pool.run serve schedule
  drain serve left.clients left.state

/-- The schedule in which `clients` clients take turns for so many rounds. -/
def takingTurns (clients rounds : Nat) : List Nat :=
  (List.replicate rounds (List.range clients)).flatten

end Pool

end Carousel
