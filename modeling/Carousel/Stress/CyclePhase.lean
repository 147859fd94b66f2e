/-
# Advancing one cycle from many threads

Workers advance one fresh cycle through one executor, each a fixed number of
times, and count the elements that they are given. The first worker unloads all
scripts after every so many of its advances, so that the executor has to load
the script again while others are using it. Afterwards the counts are added up:
each element must have been given out as often as its place in the cycle says,
and the cycle must stand where the number of advances puts it.

The workers' requests are interleaved by a schedule.
-/

import Carousel.Deployment
import Carousel.Pool
import Carousel.Room
import Carousel.Stress.Config

namespace Carousel

namespace Stress

namespace CyclePhase

/-- The name of the cycle. -/
def cycleName : String := "cyclid-stress"

/-- The handle that all workers use. -/
def cycle : Cycle where
  name := cycleName

/-- The executor that all workers use. -/
def executor : Nat := 0

/-- The elements of the cycle. -/
def elements (plan : Plan) : List String :=
  (List.range plan.elements.toNat).map fun place =>
    "e" ++ Numeral.render place

/-- Why the phase does not pass. -/
inductive Complaint
  | fault (cause : Fault)
  | vanished
  | workerPanicked
  | miscounted (element : String) (got expected : UInt64)
  | stray (element : String)
  | resumed (found : Option String) (expected : String)
  deriving DecidableEq

/-- What a cycle was found at, as it is shown in a complaint. -/
def describeFound : Option String → String
  | some element => "Some(" ++ Text.quote element ++ ")"
  | none => "None"

/-- The wording of a complaint. -/
def Complaint.message : Complaint → String
  | .fault cause => cause.message
  | .vanished => "cycle vanished while advancing"
  | .workerPanicked => "worker panicked"
  | .miscounted element got expected =>
    "element " ++ element ++ " handed out " ++ Numeral.render got.toNat ++
      " times, expected " ++ Numeral.render expected.toNat
  | .stray element => "cycle handed out unknown element " ++ element
  | .resumed found expected =>
    "cycle resumed at " ++ describeFound found ++ ", expected " ++ expected

/-- How often each element was given out. -/
abbrev Tally := Table String UInt64

/-- The number of times that an element was given out. -/
def Tally.count (tally : Tally) (element : String) : UInt64 :=
  (tally.get? element).getD 0

/-- Count an element so many times more. -/
def Tally.add (tally : Tally) (element : String) (times : UInt64) :
    Ending Tally :=
  (Word.add (tally.count element) times).map fun count =>
    tally.insert element count

/-- Add up two tallies. -/
def Tally.merge (tally : Tally) (entries : List (String × UInt64)) :
    Ending Tally :=
  match entries with
  | [] => .returned tally
  | (element, times) :: rest =>
    (tally.add element times).bind fun added => added.merge rest

/-- Whether a worker unloads the scripts after its advance with this number. -/
def flushDue (plan : Plan) (worker : Nat) (call : UInt64) : Ending Bool :=
  if worker = 0 then
    match plan.flushEvery with
    | none => .returned false
    | some period => (Word.mod call period).map fun rest => rest = 0
  else .returned false

/-- What becomes of a worker. -/
abbrev WorkerEnd := Ending (Except Complaint Tally)

/-- A worker that has `remaining` advances left, the next of which has the
number `call`. -/
def advances (plan : Plan) (worker : Nat) :
    (remaining : Nat) → (call : UInt64) → Tally → Deployment.Client WorkerEnd
  | 0, _, tally => .done (.returned (.ok tally))
  | remaining + 1, call, tally =>
    (Deployment.operate executor cycle.next).bind fun
      | .error fault => .done (.returned (.error (.fault fault)))
      | .ok none => .done (.returned (.error .vanished))
      | .ok (some element) =>
        match tally.add element 1 with
        | .panicked message => .done (.panicked message)
        | .returned counted =>
          match flushDue plan worker call with
          | .panicked message => .done (.panicked message)
          | .returned false => advances plan worker remaining (call + 1) counted
          | .returned true =>
            (Deployment.ask .flush).bind fun _ =>
              advances plan worker remaining (call + 1) counted

/-- The program of a worker. Its advances are numbered from one. -/
def worker (plan : Plan) (index : Nat) : Deployment.Client WorkerEnd :=
  advances plan index plan.calls.toNat 1 .empty

/-- The workers at work on a deployment. -/
def pool (plan : Plan) (deployment : Deployment) :
    Pool Deployment.interface WorkerEnd Deployment where
  clients :=
    (List.range plan.threads.toNat).map fun index =>
      .returned (worker plan index)
  state := deployment

/-- Add up the tallies of all workers, unless one of them did not finish. -/
def collect (tally : Tally) :
    List (Ending WorkerEnd) → Ending (Except Complaint Tally)
  | [] => .returned (.ok tally)
  | .returned (.returned (.ok seen)) :: rest =>
    (tally.merge seen.entries).bind fun merged => collect merged rest
  | .returned (.returned (.error complaint)) :: _ =>
    .returned (.error complaint)
  | _ :: _ => .returned (.error .workerPanicked)

/-- How often the element at a place is given out by `total` advances of a cycle
of `count` elements. -/
def expectedCount (total count place : UInt64) : Ending UInt64 :=
  (Word.div total count).bind fun rounds =>
    (Word.mod total count).bind fun rest =>
      Word.add rounds (if place < rest then 1 else 0)

/-- Check the counts of the elements from `place` on, and hand back the counts
that are left over. -/
def check (total count : UInt64) : (place : UInt64) → List String → Tally →
    Ending (Except Complaint Tally)
  | _, [], tally => .returned (.ok tally)
  | place, element :: rest, tally =>
    (expectedCount total count place).bind fun expected =>
      let got := tally.count element
      if got = expected then
        check total count (place + 1) rest (tally.erase element)
      else .returned (.error (.miscounted element got expected))

/-- Check where the cycle stands after `total` advances, and remove it. -/
def finish (plan : Plan) (total : UInt64) (deployment : Deployment) :
    Ending (Except Complaint UInt64) :=
  let (ending, after) :=
    (Deployment.operate executor cycle.next).run Deployment.serve deployment
  ending.bind fun
    | .error fault => .returned (.error (.fault fault))
    | .ok found =>
      (Word.mod total plan.elements).bind fun place =>
        (Word.index (elements plan) place).bind fun expected =>
          if found = some expected then
            let (removed, _) :=
              (Deployment.operate executor cycle.remove).run
                Deployment.serve after
            removed.map fun
              | .error fault => .error (.fault fault)
              | .ok () => .ok total
          else .returned (.error (.resumed found expected))

/-- Check the counts of all workers, and where the cycle stands. -/
def judge (plan : Plan) (tally : Tally) (deployment : Deployment) :
    Ending (Except Complaint UInt64) :=
  plan.totalCalls.bind fun total =>
    (check total plan.elements 0 (elements plan) tally).bind fun
      | .error complaint => .returned (.error complaint)
      | .ok left =>
        match left.keys with
        | stray :: _ => .returned (.error (.stray stray))
        | [] => finish plan total deployment

/-- Have all workers finish, and judge what they did. All of them and the thread
that starts them meet before the first advance, so there must be a number for
all of them, and room for the workers. What they come to is listed when they have
finished. -/
def work (plan : Plan) (schedule : List Nat) (deployment : Deployment) :
    Ending (Except Complaint UInt64) :=
  (Word.add plan.threads 1).bind fun _ =>
    (Room.forList Room.workerBytes plan.threads.toNat).bind fun _ =>
      let (endings, after) :=
        (pool plan deployment).complete Deployment.serve schedule
      (Room.forList Room.resultBytes plan.threads.toNat).bind fun _ =>
        (collect .empty endings).bind fun
          | .error complaint => .returned (.error complaint)
          | .ok tally => judge plan tally after

/-- Make room for the elements, for the fields of the cycle and for its record. A
cycle has one field beside its elements. No tally outgrows the record. -/
def makeRoom (plan : Plan) : Ending Unit :=
  let count := plan.elements.toNat
  (Room.forList Room.textBytes count).bind fun _ =>
    (Room.forList Room.fieldBytes (count + 1)).bind fun _ =>
      Room.forTable Room.maxRecord (count + 1)

/-- Run the phase. The elements and their fields are listed before anything is
asked of the store, and nothing can come of it before the record is in place.
Hands back the number of advances. -/
def run (plan : Plan) (schedule : List Nat) :
    Ending (Except Complaint UInt64) :=
  (makeRoom plan).bind fun _ =>
    let (created, deployment) :=
      (Deployment.operate executor (cycle.create (elements plan))).run
        Deployment.serve .new
    created.bind fun
      | .error fault => .returned (.error (.fault fault))
      | .ok () => work plan schedule deployment

end CyclePhase

end Stress

end Carousel
