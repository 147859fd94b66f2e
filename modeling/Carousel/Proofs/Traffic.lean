/-
# Clients of one cycle at work side by side

Any number of clients work on the cycle under one name. Each makes one call after
the other, through whatever executor it likes, and each call makes its requests
one at a time. Between any two requests, of the same call or of different ones,
anything may happen: requests of other clients, the start of further calls, an
unloading of all scripts, the begin or the end of an outage.

Every request that is served goes into a log, together with the deployment that
it met. The log decides nothing. It is there so that what was evaluated, when,
and for whom, can be spoken of.
-/

import Carousel.Command
import Carousel.Pool

namespace Carousel

/-- A request as it was served: the client that made it and the number of the
call it belongs to, the deployment that it met, and how it ended. -/
structure Served where
  client : Nat
  call : Nat
  before : Deployment
  request : Deployment.Request
  ending : Ending request.Answer

/-- An element that a run of the script has handed out, and the place that the
record named when the script was run. -/
structure Handout where
  client : Nat
  call : Nat
  place : Option Nat
  element : String
  deriving DecidableEq

/-- A request hands out an element if it runs a script and is answered with a
text. -/
def Served.handout? : Served → Option Handout
  | ⟨client, call, before, .store (.eval _ keys _), .returned (.ok (.text element))⟩ =>
    let record := keys.head?.bind before.store.records.get?
    some ⟨client, call, record.bind Cycle.currentIndex, element⟩
  | _ => none

/-- Clients at work on one deployment. Of each client's calls, latest first, only
the first may still have requests to make. -/
structure Traffic where
  deployment : Deployment
  calls : Nat → List (Ending (Deployment.Client Outcome))
  log : List Served

/-- What may happen next. -/
inductive Move
  | start (client executor : Nat) (call : Cycle.Call)
  | proceed (client : Nat)
  | flush
  | setOutage (on : Bool)

namespace Traffic

/-- Nobody has made a call yet. -/
def idle (deployment : Deployment) : Traffic where
  deployment := deployment
  calls := fun _ => []
  log := []

/-- Whether a call still has a request to make. -/
def underway : Ending (Deployment.Client Outcome) → Bool
  | .returned (.ask _ _) => true
  | _ => false

/-- Whether a client is in the middle of a call. -/
def busy (traffic : Traffic) (client : Nat) : Bool :=
  (traffic.calls client).head?.any underway

/-- Put other calls in place of those of a client. -/
def setCalls (traffic : Traffic) (client : Nat)
    (calls : List (Ending (Deployment.Client Outcome))) :
    Nat → List (Ending (Deployment.Client Outcome)) :=
  fun other => if other = client then calls else traffic.calls other

/-- The entry of the log for the next request of a call, if it makes one. -/
def entry (client number : Nat) (deployment : Deployment) :
    Ending (Deployment.Client Outcome) → List Served
  | .returned (.ask request _) =>
    [⟨client, number, deployment, request,
      (Deployment.serve request deployment).1⟩]
  | _ => []

/-- Let something happen to the cycle that a handle names. A client in the middle
of a call does not start another one. -/
def step (handle : Cycle) (traffic : Traffic) : Move → Traffic
  | .start client executor call =>
    if traffic.busy client then traffic
    else
      { traffic with
        calls := traffic.setCalls client
          (.returned (Command.client (.cycle executor handle call)) ::
            traffic.calls client) }
  | .proceed client =>
    match traffic.calls client with
    | [] => traffic
    | call :: earlier =>
      let (advanced, after) :=
        Pool.advance Deployment.serve call traffic.deployment
      { deployment := after
        calls := traffic.setCalls client (advanced :: earlier)
        log := traffic.log ++ entry client earlier.length traffic.deployment call }
  | .flush =>
    { traffic with
      deployment := (Deployment.serve (.store .flush) traffic.deployment).2 }
  | .setOutage on =>
    { traffic with
      deployment := (Deployment.serve (.store (.setOutage on)) traffic.deployment).2 }

/-- Let things happen one after the other. -/
def run (handle : Cycle) (traffic : Traffic) (moves : List Move) : Traffic :=
  moves.foldl (step handle) traffic

/-- The elements handed out so far, in the order in which the script was run. -/
def handouts (traffic : Traffic) : List Handout :=
  traffic.log.filterMap Served.handout?

/-- The number of elements handed out so far. -/
def turns (traffic : Traffic) : Nat :=
  traffic.handouts.length

/-- The call of a client with the given number, counted from its first. -/
def call? (traffic : Traffic) (client number : Nat) :
    Option (Ending (Deployment.Client Outcome)) :=
  (traffic.calls client).reverse[number]?

/-- The text that a call has come back with. -/
def text? : Ending (Deployment.Client Outcome) → Option String
  | .returned (.done (.ok (.optionalText text))) => text
  | _ => none

/-- The texts that calls, latest first, have come back with, each with the number
of its call. -/
def texts : List (Ending (Deployment.Client Outcome)) → List (Nat × String)
  | [] => []
  | call :: earlier =>
    texts earlier ++ (text? call).toList.map fun text => (earlier.length, text)

end Traffic

end Carousel
