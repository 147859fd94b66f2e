/-
# Sleeps moment by moment

A sleep takes time: it looks at its latch, rests, and looks again. While it rests, other
handles can raise and restore interrupts, be made, and sleep themselves. Here the two
looks of a sleep are moments of their own, so that anything can happen between them, and
any number of sleeps can rest at once. A sleep that finds an interrupt at its first look
does not rest, and has nothing to get up from.

What happened is noted: which handle was derived from which, who raised or restored an
interrupt, and what a sleep came to when it ended. Carrying out steps one after the other
is a special case, in which a sleep ends before anyone else sleeps.
-/

import Carousel.Latch

namespace Carousel

namespace Sleepers

/-- A sleep or an interrupter, each named by the order in which it came into being. -/
inductive Handle
  | sleep (index : Nat)
  | interrupter (index : Nat)
  deriving DecidableEq

/-- Neither sleeps nor interrupters. -/
def nobody : Sleepers where
  latches := []
  sleeps := []
  interrupters := []

/-- The handle has come into being. -/
def Has (sleepers : Sleepers) : Handle → Prop
  | .sleep index => index < sleepers.sleeps.length
  | .interrupter index => index < sleepers.interrupters.length

instance (sleepers : Sleepers) : (handle : Handle) → Decidable (sleepers.Has handle)
  | .sleep index => inferInstanceAs (Decidable (index < sleepers.sleeps.length))
  | .interrupter index => inferInstanceAs (Decidable (index < sleepers.interrupters.length))

/-- The family of a handle. -/
def familyOf (sleepers : Sleepers) : Handle → Nat
  | .sleep index => sleepers.familyOfSleep index
  | .interrupter index => sleepers.familyOfInterrupter index

/-- Interrupts change nothing about who is related to whom. -/
theorem familyOfSleep_raiseAll (sleepers : Sleepers) (interrupters : List Nat) (sleep : Nat) :
    (sleepers.raiseAll interrupters).familyOfSleep sleep = sleepers.familyOfSleep sleep := by
  induction interrupters generalizing sleepers with
  | nil => rfl
  | cons interrupter rest ih => exact ih (sleepers.raise _)

/-- What is noted of a moment. -/
inductive Entry
  | derived (parent child : Handle)
  /-- An interrupt was raised by an interrupter, or restored by a sleep. -/
  | signalled (handle : Handle)
  /-- A sleep ended. -/
  | slept (sleep : Nat) (interrupted : Bool)
  deriving DecidableEq

/-- What can happen at a moment. -/
inductive Moment
  | newSleep
  | cloneSleep (sleep : Nat)
  | newInterrupter (sleep : Nat)
  | cloneInterrupter (interrupter : Nat)
  | signal (handle : Handle)
  /-- The first look of a sleep. -/
  | lieDown (sleep : Nat)
  /-- The second look of a sleep that rests. -/
  | getUp (sleep : Nat)

/-- The handle that a moment names. -/
def Moment.handle? : Moment → Option Handle
  | .newSleep => none
  | .cloneSleep sleep | .newInterrupter sleep | .lieDown sleep | .getUp sleep =>
    some (.sleep sleep)
  | .cloneInterrupter interrupter => some (.interrupter interrupter)
  | .signal handle => some handle

end Sleepers

/-- Sleeps and interrupters, and the sleeps that rest. A sleep that was called twice can
rest twice. -/
structure Dormitory where
  sleepers : Sleepers
  resting : List Nat
  deriving DecidableEq

namespace Dormitory

open Sleepers

/-- A dormitory before the first sleep. -/
def empty : Dormitory where
  sleepers := nobody
  resting := []

section

variable (dormitory : Dormitory)

/-- Let a moment pass. -/
def act : Moment → Option Entry × Dormitory
  | .newSleep =>
    (none, { dormitory with sleepers := (dormitory.sleepers.step .newSleep).2 })
  | .cloneSleep index =>
    (some (.derived (.sleep index) (.sleep dormitory.sleepers.sleeps.length)),
      { dormitory with sleepers := (dormitory.sleepers.step (.cloneSleep index)).2 })
  | .newInterrupter index =>
    (some (.derived (.sleep index) (.interrupter dormitory.sleepers.interrupters.length)),
      { dormitory with sleepers := (dormitory.sleepers.step (.newInterrupter index)).2 })
  | .cloneInterrupter index =>
    (some (.derived (.interrupter index)
        (.interrupter dormitory.sleepers.interrupters.length)),
      { dormitory with sleepers := (dormitory.sleepers.step (.cloneInterrupter index)).2 })
  | .signal handle =>
    (some (.signalled handle),
      { dormitory with
        sleepers := dormitory.sleepers.raise (dormitory.sleepers.familyOf handle) })
  | .lieDown index =>
    let (interrupted, lowered) :=
      dormitory.sleepers.observe (dormitory.sleepers.familyOfSleep index)
    if interrupted then (some (.slept index true), { dormitory with sleepers := lowered })
    else (none, ⟨lowered, index :: dormitory.resting⟩)
  | .getUp index =>
    if index ∈ dormitory.resting then
      let (interrupted, lowered) :=
        dormitory.sleepers.observe (dormitory.sleepers.familyOfSleep index)
      (some (.slept index interrupted), ⟨lowered, dormitory.resting.erase index⟩)
    else (none, dormitory)

/-- Let moments pass one after the other, and note what happens. -/
def live : List Moment → Dormitory → List Entry × Dormitory
  | [], dormitory => ([], dormitory)
  | moment :: rest, dormitory =>
    let (entry, after) := dormitory.act moment
    let (entries, final) := live rest after
    (entry.toList ++ entries, final)

/-- Every handle is there when it is named. -/
def Named : List Moment → Dormitory → Prop
  | [], _ => True
  | moment :: rest, dormitory =>
    (∀ handle ∈ moment.handle?, dormitory.sleepers.Has handle) ∧
      Named rest (dormitory.act moment).2

instance decidableNamed : (moments : List Moment) → (dormitory : Dormitory) →
    Decidable (Named moments dormitory)
  | [], _ => isTrue trivial
  | moment :: rest, dormitory =>
    have := decidableNamed rest (dormitory.act moment).2
    inferInstanceAs (Decidable ((∀ handle ∈ moment.handle?, dormitory.sleepers.Has handle) ∧
      Named rest (dormitory.act moment).2))

end

/-! ## Steps in moments -/

theorem live_cons (moment : Moment) (rest : List Moment) (dormitory : Dormitory) :
    live (moment :: rest) dormitory =
      ((dormitory.act moment).1.toList ++ (live rest (dormitory.act moment).2).1,
        (live rest (dormitory.act moment).2).2) :=
  rfl

theorem live_append (first second : List Moment) (dormitory : Dormitory) :
    live (first ++ second) dormitory =
      ((live first dormitory).1 ++ (live second (live first dormitory).2).1,
        (live second (live first dormitory).2).2) := by
  induction first generalizing dormitory with
  | nil => rfl
  | cons moment rest ih =>
    rw [List.cons_append, live_cons, live_cons, ih, List.append_assoc]

/-- Interrupters that raise interrupts one after the other. -/
theorem live_signals (interrupters : List Nat) (dormitory : Dormitory) :
    live (interrupters.map fun index => .signal (.interrupter index)) dormitory =
      (interrupters.map fun index => .signalled (.interrupter index),
        { dormitory with sleepers := dormitory.sleepers.raiseAll interrupters }) := by
  induction interrupters generalizing dormitory with
  | nil => rfl
  | cons index rest ih =>
    rw [List.map_cons, live_cons, ih]
    rfl

end Dormitory

namespace Sleepers

/-- The moments of a step. -/
def Step.moments : Step → List Moment
  | .newSleep => [.newSleep]
  | .cloneSleep index => [.cloneSleep index]
  | .newInterrupter index => [.newInterrupter index]
  | .cloneInterrupter index => [.cloneInterrupter index]
  | .interrupt index => [.signal (.interrupter index)]
  | .restore index => [.signal (.sleep index)]
  | .sleep index meanwhile =>
    .lieDown index ::
      (meanwhile.map fun interrupter => .signal (.interrupter interrupter)) ++ [.getUp index]
  | .plainSleep => []

/-- The sleep that an entry says to have ended, and what it came to. -/
def Entry.report? : Entry → Option (Nat × Bool)
  | .slept sleep interrupted => some (sleep, interrupted)
  | .derived _ _ | .signalled _ => none

/-- What a step reports of a sleep that can be interrupted. -/
def Step.report? : Step → Answer → Option (Nat × Bool)
  | .sleep index _, .slept interrupted => some (index, interrupted)
  | _, _ => none

/-- What the answers to steps report of such sleeps. -/
def reports : List Step → List Answer → List (Nat × Bool)
  | step :: steps, answer :: answers => (step.report? answer).toList ++ reports steps answers
  | _, _ => []

end Sleepers

namespace Dormitory

open Sleepers

/-- Carrying out a step is letting its moments pass, if nobody rests. -/
theorem live_moments (step : Step) (sleepers : Sleepers) :
    (live step.moments ⟨sleepers, []⟩).2 = ⟨(sleepers.step step).2, []⟩ ∧
      (live step.moments ⟨sleepers, []⟩).1.filterMap Entry.report? =
        (step.report? (sleepers.step step).1).toList := by
  cases step with
  | newSleep | cloneSleep | newInterrupter | cloneInterrupter | interrupt | restore
  | plainSleep => exact ⟨rfl, rfl⟩
  | sleep index meanwhile =>
    have quiet : (meanwhile.map fun interrupter =>
        Entry.signalled (.interrupter interrupter)).filterMap Entry.report? = [] := by
      simp [Entry.report?]
    have same : ((sleepers.observe (sleepers.familyOfSleep index)).2.raiseAll
        meanwhile).familyOfSleep index = sleepers.familyOfSleep index :=
      familyOfSleep_raiseAll _ meanwhile index
    rw [Step.moments, live_append, live_cons, live_signals]
    cases early : (sleepers.observe (sleepers.familyOfSleep index)).1 with
    | true =>
      simp [act, live, early, Sleepers.step, Sleepers.sleep, quiet, Entry.report?,
        Step.report?]
    | false =>
      simp [act, live, early, same, Sleepers.step, Sleepers.sleep, quiet, Entry.report?,
        Step.report?]

/-- Carrying out steps one after the other is letting their moments pass. -/
theorem live_flatMap_moments (steps : List Step) (sleepers : Sleepers) :
    (live (steps.flatMap Step.moments) ⟨sleepers, []⟩).2 = ⟨(run steps sleepers).2, []⟩ ∧
      (live (steps.flatMap Step.moments) ⟨sleepers, []⟩).1.filterMap Entry.report? =
        reports steps (run steps sleepers).1 := by
  induction steps generalizing sleepers with
  | nil => exact ⟨rfl, rfl⟩
  | cons step rest ih =>
    obtain ⟨after, told⟩ := live_moments step sleepers
    obtain ⟨final, later⟩ := ih (sleepers.step step).2
    rw [List.flatMap_cons, live_append, after, List.filterMap_append, told, later]
    exact ⟨final, rfl⟩

example : (run [.newSleep, .newInterrupter 0] nobody).2 = initial := rfl

end Dormitory

end Carousel
