/-
# Clients that create, remove and advance one cycle side by side

Clients may carry out any operation on the cycle under one name, through whatever
executor they like, with their single requests in any order. Other clients may be at
work on the same store, as long as they do not write the record under that name.

What was done to the record is read off the log: who wrote which fields, when it was
removed, and how often the script was run on it. An operation that looks first and
writes later may find that much has happened in between, so what a call came to is
told by where its own requests stand in the log.
-/

import Carousel.Proofs.Ideal
import Carousel.Proofs.Traffic

namespace Carousel

/-- Clients at work on one cycle, with the operations that each client's calls carry
out, latest first. -/
structure Crowd extends Traffic where
  asked : Nat → List Cycle.Call

/-- What may happen next: something among the clients of the cycle, or a request of
somebody else. -/
inductive Event
  | move (move : Move)
  | bystander (request : Deployment.Request)

/-- What a served request can do to the record under a name: a call writes it, somebody
removes it, or the script is run on it. -/
inductive Mark
  | written (client call : Nat) (fields : List (String × String))
  | removed
  | ran
  deriving DecidableEq

/-- Whether a script was run at all: it was known, and there was no outage. -/
def evaluated : Ending (Except Failure Scalar) → Bool
  | .returned (.error (.noScript _)) => false
  | .returned (.error (.unavailable _)) => false
  | _ => true

/-- A request that the store refuses does nothing to the record. -/
def Served.mark? (name : String) : Served → Option Mark
  | ⟨client, call, _, .store (.replace key fields), .returned (.ok _)⟩ =>
    if key = name then some (.written client call fields) else none
  | ⟨_, _, _, .store (.delete key), .returned (.ok _)⟩ =>
    if key = name then some .removed else none
  | ⟨_, _, _, .store (.eval _ keys _), ending⟩ =>
    if keys = [name] ∧ evaluated ending = true then some .ran else none
  | _ => none

/-- What has been done to the record under a name, in order. -/
def Traffic.marks (traffic : Traffic) (name : String) : List Mark :=
  traffic.log.filterMap (Served.mark? name)

/-- The elements that an operation writes, if it writes any. -/
def Cycle.Call.elements? : Cycle.Call → Option (List String)
  | .create elements => some elements
  | .createIfMissing elements => some elements
  | _ => none

namespace Crowd

/-- Nobody has made a call yet. -/
def idle (deployment : Deployment) : Crowd where
  toTraffic := .idle deployment
  asked := fun _ => []

/-- The operations that the calls carry out after a move. -/
def askedAfter (crowd : Crowd) : Move → Nat → List Cycle.Call
  | .start client _ call =>
    if crowd.busy client then crowd.asked
    else fun other =>
      if other = client then call :: crowd.asked client else crowd.asked other
  | _ => crowd.asked

/-- Let something happen. Requests of bystanders are not logged. -/
def step (handle : Cycle) (crowd : Crowd) : Event → Crowd
  | .move move =>
    { toTraffic := crowd.toTraffic.step handle move
      asked := crowd.askedAfter move }
  | .bystander request =>
    { crowd with deployment := (Deployment.serve request crowd.deployment).2 }

/-- Let things happen one after the other. -/
def run (handle : Cycle) (crowd : Crowd) (events : List Event) : Crowd :=
  events.foldl (step handle) crowd

/-- The operation that the call of a client with the given number carries out. -/
def asked? (crowd : Crowd) (client number : Nat) : Option Cycle.Call :=
  (crowd.asked client).reverse[number]?

/-- What the record under a name must be after what has been done to it: nothing if it
was never written, or not since it was removed last; and else the elements that the last
writer was asked to write, turned as often as the script was run since. -/
def Shows (crowd : Crowd) (name : String) : Option Wheel → Prop
  | none => ∃ earlier runs, (earlier = [] ∨ ∃ before, earlier = before ++ [.removed]) ∧
    crowd.marks name = earlier ++ List.replicate runs .ran
  | some wheel => ∃ earlier client number runs,
    crowd.marks name =
        earlier ++ .written client number (Cycle.freshFields wheel.elements) ::
          List.replicate runs .ran ∧
      (crowd.asked? client number).bind Cycle.Call.elements? = some wheel.elements ∧
      wheel.position = runs % wheel.elements.length

end Crowd

end Carousel
