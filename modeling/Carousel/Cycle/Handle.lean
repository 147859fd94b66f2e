/-
# Cycles

A cycle is a named sequence of texts in a store that many clients advance
together, and that starts over after its last element. A `Cycle` is a handle on
one: its name, and the script that advances it. Handles hold no other state, so
a copy of a handle is as good as the handle.

Each operation is a program over four requests: three to the store, and the
execution of a script. Every request is made at most once. If it fails the
operation ends there, with the failure unchanged.
-/

import Carousel.Cycle.Advance
import Carousel.Fault
import Carousel.Program

namespace Carousel

/-- A handle on the cycle under a name. -/
structure Cycle where
  name : String
  script : Script := .bundled
  deriving DecidableEq

namespace Cycle

/-- What the operations on a cycle ask of its surroundings. -/
inductive Request
  | has (key : String)
  | replace (key : String) (fields : List (String × String))
  | delete (key : String)
  | execute (script : Script) (keys args : List String)
  deriving DecidableEq

/-- What each request is answered with. -/
abbrev Request.Answer : Request → Type
  | .has _ => Except Failure Bool
  | .replace _ _ => Except Failure Unit
  | .delete _ => Except Failure Unit
  | .execute _ _ _ => Except Failure Scalar

/-- The requests of a cycle as an interface. -/
abbrev interface : Interface where
  Query := Request
  Answer := Request.Answer

/-- Ask whether a record exists. -/
def has (key : String) : Program interface (Except Failure Bool) :=
  .request interface (.has key)

/-- Put a whole record in place of what is under a key. -/
def replace (key : String) (fields : List (String × String)) :
    Program interface (Except Failure Unit) :=
  .request interface (.replace key fields)

/-- Remove a record. -/
def delete (key : String) : Program interface (Except Failure Unit) :=
  .request interface (.delete key)

/-- Have a script executed. -/
def execute (script : Script) (keys args : List String) :
    Program interface (Except Failure Scalar) :=
  .request interface (.execute script keys args)

/-- A cycle operation that hands back an `α`, unless it fails. -/
abbrev Operation (α : Type) := Program interface (Except Fault α)

section

variable {α β : Type}

/-- End an operation with its result. -/
def finish (result : α) : Operation α :=
  .done (.ok result)

/-- End an operation with a fault. -/
def fail (fault : Fault) : Operation α :=
  .done (.error fault)

/-- Make a request of which a failure ends the operation. -/
def demand (asked : Program interface (Except Failure α))
    (next : α → Operation β) : Operation β :=
  asked.bind fun
    | .error failure => fail (.store failure)
    | .ok answer => next answer

end

/-- The fields of elements, the first of which has the index `start`. -/
def elementFields (start : Nat) : List String → List (String × String)
  | [] => []
  | element :: rest =>
    (Numeral.render start, element) :: elementFields (start + 1) rest

/-- The fields of a fresh cycle, which stands on its first element. -/
def freshFields (elements : List String) : List (String × String) :=
  (currentField, Numeral.render 0) :: elementFields 0 elements

variable (cycle : Cycle)

/-- Whether the cycle exists. -/
def exists? : Operation Bool :=
  demand (has cycle.name) finish

/-- Write a fresh cycle in place of whatever is under the name. It must have an
element. -/
def create (elements : List String) : Operation Unit :=
  if elements.isEmpty then fail (.emptyCycle cycle.name)
  else demand (replace cycle.name (freshFields elements)) finish

/-- Create the cycle if there is none. Looking and writing are two requests. -/
def createIfMissing (elements : List String) : Operation Unit :=
  demand (has cycle.name) fun found =>
    if found then finish () else cycle.create elements

/-- What a script's answer means for an advance. A cycle that vanished before
the script ran is no fault, and an answer that is no text is one. -/
def ofScalar : Scalar → Except Fault (Option String)
  | .text element => .ok (some element)
  | .nil => .ok none
  | .int value => .error (.unexpectedResult cycle.name (.int value))

/-- Take the current element and move the cycle on. There is none if the cycle
does not exist. -/
def next : Operation (Option String) :=
  demand (has cycle.name) fun found =>
    if found then
      demand (execute cycle.script [cycle.name] []) fun answer =>
        .done (cycle.ofScalar answer)
    else finish none

/-- A cycle never ends. -/
def hasNext (_ : Cycle) : Bool := true

/-- Remove the cycle. It need not exist. -/
def remove : Operation Unit :=
  demand (delete cycle.name) finish

/-- The handle as it is shown to developers. -/
def describe : String :=
  "CycleSequence \x7b name: " ++ Text.quote cycle.name ++ ", script: " ++
    Text.quote cycle.script.name ++ ", .. \x7d"

end Cycle

end Carousel
