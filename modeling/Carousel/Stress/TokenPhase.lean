/-
# Minting from many threads

Workers mint tokens from clones of one generator, each a fixed number of times.
Afterwards all tokens must be distinct. Tokens whose timestamp is lower than
that of the token which the same worker got before are counted, but are no
reason to complain: a clock may be set back.

A call holds the generator's lock, so the calls of the workers come one after
the other. A schedule names the worker that mints next.
-/

import Carousel.Room
import Carousel.Stress.Config
import Carousel.Token.Generator

namespace Carousel

namespace Stress

namespace TokenPhase

/-- The name of the lock for which tokens are minted. -/
def lockName : String := "cyclid-stress"

/-- Why the phase does not pass. -/
inductive Complaint
  | workerPanicked
  | duplicate (token : String)
  deriving DecidableEq

/-- The wording of a complaint. -/
def Complaint.message : Complaint → String
  | .workerPanicked => "token worker panicked"
  | .duplicate token => "duplicate token " ++ token

/-- What a phase that passes reports: the number of tokens, and how many of them
came out of order. -/
structure Report where
  ops : Nat
  outOfOrder : Nat
  deriving DecidableEq

/-- A worker: the tokens that it got so far, the latest first, and how many it
is still to get. -/
structure Worker where
  remaining : Nat
  minted : List Token := []
  panicked : Bool := false
  deriving DecidableEq

/-- The workers, and the generator and the devices that they share. -/
structure Workshop where
  workers : List Worker
  generator : Generator := {}
  usage : Usage := {}
  deriving DecidableEq

variable (devices : Devices) (patience : Nat)

/-- Let a worker mint one token, unless it has all its tokens or has panicked. -/
def mintOnce (worker : Worker) (generator : Generator) (usage : Usage) :
    Option (Worker × Generator × Usage) :=
  if worker.remaining = 0 ∨ worker.panicked then some (worker, generator, usage)
  else
    (generator.mint devices patience lockName usage).map
      fun (ending, after, used) =>
        let worker :=
          match Generator.insist ending with
          | .returned minted =>
            { worker with
              remaining := worker.remaining - 1
              minted := minted.token :: worker.minted }
          | .panicked _ => { worker with panicked := true }
        (worker, after, used)

/-- Let the worker with the given index mint one token. -/
def step (workshop : Workshop) (index : Nat) : Option Workshop :=
  match workshop.workers[index]? with
  | none => some workshop
  | some worker =>
    (mintOnce devices patience worker workshop.generator workshop.usage).map
      fun (worker, generator, usage) =>
        { workers := workshop.workers.set index worker, generator, usage }

/-- Let workers mint in the order of a schedule. -/
def follow : List Nat → Workshop → Option Workshop
  | [], workshop => some workshop
  | index :: rest, workshop =>
    (step devices patience workshop index).bind (follow rest)

/-- The order in which each worker mints all that it has left at once. -/
def leftOver (workshop : Workshop) : List Nat :=
  workshop.workers.zipIdx.flatMap fun (worker, index) =>
    if worker.panicked then [] else List.replicate worker.remaining index

/-- The number of tokens in a worker's list, the latest first, that are older
than the token before them. -/
def outOfOrder : List Token → Nat
  | later :: earlier :: rest =>
    (if later.timestamp < earlier.timestamp then 1 else 0) +
      outOfOrder (earlier :: rest)
  | _ => 0

/-- Add texts to a list of distinct texts, unless one is there already. -/
def addDistinct : List String → List String → Except Complaint (List String)
  | seen, [] => .ok seen
  | seen, text :: rest =>
    if seen.contains text then .error (.duplicate text)
    else addDistinct (text :: seen) rest

/-- Check the tokens of all workers. -/
def judge (seen : List String) (late : Nat) :
    List Worker → Except Complaint Report
  | [] => .ok ⟨seen.length, late⟩
  | worker :: rest =>
    if worker.panicked then .error .workerPanicked
    else
      match addDistinct seen (worker.minted.reverse.map Token.render) with
      | .error complaint => .error complaint
      | .ok seen => judge seen (late + outOfOrder worker.minted) rest

/-- A worker before its first token. It panics at once if there is no room for
all of its tokens. -/
def Worker.start (plan : Plan) : Worker where
  remaining := plan.tokensPerThread.toNat
  panicked :=
    match Room.forList Room.tokenBytes plan.tokensPerThread.toNat with
    | .returned () => false
    | .panicked _ => true

/-- Let all workers mint, and hand back what came of them. -/
def work (plan : Plan) (schedule : List Nat) : Option Workshop :=
  let start : Workshop :=
    { workers := List.replicate plan.threads.toNat (Worker.start plan) }
  (follow devices patience schedule start).bind fun scheduled =>
    follow devices patience (leftOver scheduled) scheduled

/-- Run the phase, unless the clock stands still for longer than `patience`
readings. All workers and the thread that starts them meet before the first
token, so there must be a number for all of them, and room for the workers. Room
is made for all tokens before they are compared. -/
def run (plan : Plan) (schedule : List Nat) :
    Option (Ending (Except Complaint Report)) :=
  let started := (Word.add plan.threads 1).bind fun _ =>
    Room.forList Room.workerBytes plan.threads.toNat
  match started with
  | .panicked message => some (.panicked message)
  | .returned () =>
    (work devices patience plan schedule).map fun finished =>
      plan.totalTokens.bind fun total =>
        (Room.forTable Room.maxTextSet total.toNat).map fun _ => judge [] 0 finished.workers

end TokenPhase

end Stress

end Carousel
