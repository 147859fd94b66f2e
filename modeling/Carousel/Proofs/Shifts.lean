/-
# Where a worker of the cycle phase can stand

A worker is in the middle of an advance, about to unload the scripts, or at the end of
its work. All that its next request can do is listed here, for a store that is available
and holds the wheel of the cycle. An advance can take a turn, go on to its next stage, or
be refused for good: that happens only when the script has been unloaded both times it
was to be run.
-/

import Carousel.Proofs.Stages
import Carousel.Proofs.Tallies

namespace Carousel

namespace Stress

namespace CyclePhase

open Deployment (Client)

/-- The complaint of a worker whose advance was refused twice. -/
def refusal : Complaint :=
  .fault (.store (.noScript Script.bundledDigest))

/-- What a worker does with what its advance came to. -/
def afterAdvance (plan : Plan) (worker remaining : Nat) (call : UInt64) (tally : Tally) :
    Except Fault (Option String) → Client WorkerEnd
  | .error fault => .done (.returned (.error (.fault fault)))
  | .ok none => .done (.returned (.error .vanished))
  | .ok (some element) =>
    match tally.add element 1 with
    | .panicked message => .done (.panicked message)
    | .returned counted =>
      match flushDue plan worker call with
      | .panicked message => .done (.panicked message)
      | .returned false => advances plan worker remaining (call + 1) counted
      | .returned true =>
        (Deployment.ask .flush).bind fun _ =>
          advances plan worker remaining (call + 1) counted

/-- Where a worker can stand: in an advance with its number, after which so many
remain; in front of an unloading that follows that advance; or at its end. -/
inductive Shift
  | advancing (stage : Stage) (remaining : Nat) (call : UInt64) (tally : Tally)
  | flushing (remaining : Nat) (call : UInt64) (tally : Tally)
  | finished (tally : Tally)
  | failed (call : UInt64) (tally : Tally)

namespace Shift

/-- What is left to be done on a shift. -/
def program (plan : Plan) (worker : Nat) : Shift → Client WorkerEnd
  | advancing stage remaining call tally =>
    Stage.program executor cycle (afterAdvance plan worker remaining call tally) stage
  | flushing remaining call tally =>
    .ask (.store .flush) fun _ => advances plan worker remaining (call + 1) tally
  | finished tally => .done (.returned (.ok tally))
  | failed _ _ => .done (.returned (.error refusal))

/-- The shift after an advance with its number, when so many remain. -/
def next (remaining : Nat) (call : UInt64) (tally : Tally) : Shift :=
  match remaining with
  | 0 => finished tally
  | remaining + 1 => advancing .checking remaining (call + 1) tally

/-- What has been counted so far. -/
def tally : Shift → Tally
  | advancing _ _ _ tally => tally
  | flushing _ _ tally => tally
  | finished tally => tally
  | failed _ tally => tally

/-- The worker has come to its end. -/
def Rested : Shift → Prop
  | finished _ => True
  | failed _ _ => True
  | _ => False

theorem program_next (plan : Plan) (worker remaining : Nat) (call : UInt64)
    (tally : Tally) :
    (next remaining call tally).program plan worker =
      advances plan worker remaining (call + 1) tally := by
  cases remaining with
  | zero => rfl
  | succ remaining =>
    rw [next, program, Stage.program, advances]
    refine congrArg (Program.bind (Deployment.operate executor cycle.next))
      (funext fun result => ?_)
    rcases result with fault | (_ | element)
    · rfl
    · rfl
    · rfl

end Shift

/-- The exchange in which the store does not know the script. -/
abbrev missed : Exchange :=
  ⟨Stage.evaluation cycle, .returned (.error (.noScript Script.bundledDigest))⟩

/-- The exchange in which the script gives out an element. -/
abbrev handed (element : String) : Exchange :=
  ⟨Stage.evaluation cycle, .returned (.ok (.text element))⟩

/-- The exchange in which all scripts are unloaded. -/
abbrev flushed : Exchange :=
  ⟨.store .flush, .returned ()⟩

/-- What the next request of a worker can do where the cycle is there: the exchange, the
shift that follows, and the deployment that is left. A worker at its end asks for
nothing. -/
inductive Works (plan : Plan) (worker : Nat) (wheel : Wheel) (before : Deployment) :
    Shift → Option Exchange → Shift → Deployment → Prop
  | idle {shift : Shift} (rested : shift.Rested) :
    Works plan worker wheel before shift none shift before
  | goes {stage later : Stage} {exchange : Exchange} {after : Deployment}
    (leads : Stage.Leads executor cycle (some wheel) before stage exchange later after)
    (pending : ∀ result, later ≠ .settled result) (remaining : Nat) (call : UInt64)
    (tally : Tally)
    (makes : Stage.Makes executor cycle before stage exchange later after) :
    Works plan worker wheel before (.advancing stage remaining call tally) (some exchange)
      (.advancing later remaining call tally) after
  | refused (unloaded : ¬ before.store.loaded.contains Script.bundledDigest = true)
    (remaining : Nat) (call : UInt64) (tally : Tally)
    (makes : Stage.Makes executor cycle before .rerunning missed
      (.settled (.error (.store (.noScript Script.bundledDigest)))) before) :
    Works plan worker wheel before (.advancing .rerunning remaining call tally)
      (some missed) (.failed call tally) before
  | takes {stage : Stage} (runs : stage.Runs)
    (loaded : before.store.loaded.contains Script.bundledDigest = true)
    (remaining : Nat) (call : UInt64) {tally counted : Tally}
    (adds : tally.add wheel.current 1 = .returned counted)
    (early : flushDue plan worker call = .returned false)
    (makes : Stage.Makes executor cycle before stage (handed wheel.current)
      (.settled (.ok wheel.current))
      (before.withRecords (before.store.records.insert cycleName wheel.turn.record))) :
    Works plan worker wheel before (.advancing stage remaining call tally)
      (some (handed wheel.current)) (.next remaining call counted)
      (before.withRecords (before.store.records.insert cycleName wheel.turn.record))
  | takesLast {stage : Stage} (runs : stage.Runs)
    (loaded : before.store.loaded.contains Script.bundledDigest = true)
    (remaining : Nat) (call : UInt64) {tally counted : Tally}
    (adds : tally.add wheel.current 1 = .returned counted)
    (due : flushDue plan worker call = .returned true)
    (makes : Stage.Makes executor cycle before stage (handed wheel.current)
      (.settled (.ok wheel.current))
      (before.withRecords (before.store.records.insert cycleName wheel.turn.record))) :
    Works plan worker wheel before (.advancing stage remaining call tally)
      (some (handed wheel.current)) (.flushing remaining call counted)
      (before.withRecords (before.store.records.insert cycleName wheel.turn.record))
  | flushes (remaining : Nat) (call : UInt64) (tally : Tally) :
    Works plan worker wheel before (.flushing remaining call tally) (some flushed)
      (.next remaining call tally) (Deployment.serve (.store .flush) before).2

/-- A shift can go on as listed: it is in a stage of an advance that is not settled yet,
there is a word for one more of the element that the wheel stands on, and the period of
unloadings is not zero. -/
def Shift.Able (plan : Plan) (wheel : Wheel) : Shift → Prop
  | advancing stage _ _ tally =>
    (∀ result, stage ≠ .settled result) ∧
      tally.counted wheel.current + 1 < UInt64.size ∧ plan.flushEvery ≠ some 0
  | _ => True

/-- Whether an unloading is due can be told, if the period is not zero. -/
theorem exists_flushDue {plan : Plan} (periodic : plan.flushEvery ≠ some 0) (worker : Nat)
    (call : UInt64) : ∃ due, flushDue plan worker call = .returned due := by
  rw [flushDue]
  by_cases first : worker = 0
  · rw [if_pos first]
    cases every : plan.flushEvery with
    | none => exact ⟨false, rfl⟩
    | some period =>
      have some : period ≠ 0 := by
        rintro rfl
        exact periodic every
      simp only [Word.mod, if_neg some]
      exact ⟨_, rfl⟩
  · exact ⟨false, if_neg first⟩

/-- Whatever has happened since its last request, the next request of a worker does one
of the things listed. -/
theorem exists_works {plan : Plan} (worker : Nat) {wheel : Wheel} {before : Deployment}
    (sound : before.Sound) (up : ¬ before.store.outage = true)
    (held : before.store.records.get? cycleName = some wheel.record)
    (small : wheel.Small) {shift : Shift} (able : shift.Able plan wheel) :
    ∃ exchange later after, Works plan worker wheel before shift exchange later after ∧
      Deployment.exchange? before (.returned (shift.program plan worker)) = exchange ∧
      Pool.advance Deployment.serve (.returned (shift.program plan worker)) before =
        (.returned (later.program plan worker), after) := by
  cases shift with
  | finished tally => exact ⟨_, _, _, .idle trivial, rfl, rfl⟩
  | failed call tally => exact ⟨_, _, _, .idle trivial, rfl, rfl⟩
  | flushing remaining call tally =>
    refine ⟨_, _, _, .flushes remaining call tally, rfl, ?_⟩
    rw [Shift.program_next]
    rfl
  | advancing stage remaining call tally =>
    obtain ⟨pending, fits, periodic⟩ := able
    have shown : before.store.records.get? cycle.name = (some wheel).map Wheel.record := held
    have few : ∀ found ∈ some wheel, found.Small := by
      intro found same
      cases same
      exact small
    have bundled : cycle.script = .bundled := rfl
    obtain ⟨exchange, later, after, leads, makes⟩ :=
      Stage.advances_of_sound executor bundled sound shown few pending
    have asked := makes.exchange?_eq (afterAdvance plan worker remaining call tally)
    have moved := makes.advance_eq (afterAdvance plan worker remaining call tally)
    have goes : (∀ result, later ≠ .settled result) →
        ∃ exchange next after,
          Works plan worker wheel before (.advancing stage remaining call tally)
              exchange next after ∧
            Deployment.exchange? before
                (.returned ((Shift.advancing stage remaining call tally).program plan
                  worker)) = exchange ∧
            Pool.advance Deployment.serve
              (.returned ((Shift.advancing stage remaining call tally).program plan worker))
              before = (.returned (next.program plan worker), after) := by
      intro unsettled
      exact ⟨_, _, _, .goes leads unsettled remaining call tally makes, asked, moved⟩
    cases leads with
    | @turned _ runs _ loaded turning same =>
      cases same
      have one : tally.counted wheel.current + (1 : UInt64).toNat < UInt64.size := fits
      obtain ⟨counted, adds, _⟩ := Tally.exists_add one
      obtain ⟨due, tells⟩ := exists_flushDue periodic worker call
      cases due with
      | false =>
        refine ⟨_, _, _, .takes runs loaded remaining call adds tells makes, asked,
          moved.trans ?_⟩
        simp only [Stage.program, afterAdvance, adds, tells, Shift.program_next]
        rfl
      | true =>
        refine ⟨_, _, _, .takesLast runs loaded remaining call adds tells makes, asked,
          moved.trans ?_⟩
        simp only [Stage.program, afterAdvance, adds, tells]
        rfl
    | missing up none => cases none
    | vanished runs up loaded none => cases none
    | refusedAgain up unloaded =>
      exact ⟨_, _, _, .refused unloaded remaining call tally makes, asked, moved⟩
    | hasFailed down | loadFailed loads down | evalFailed runs down => exact absurd down up
    | _ => exact goes fun result same => by cases same

end CyclePhase

end Stress

end Carousel
