/-
# Whole histories of cycles

A name comes onto the track when its cycle is created or removed, whatever was
stored under it before, and whatever the ideal machine had in its place. From
then on the history of a deployment and that of the ideal machine tell the same
on the name, and the record under it is the record of the ideal wheel.

Scripts may be unloaded and outages may come and go at any time, also before the
name is founded. Records under other names may be written by anyone.
-/

import Carousel.Proofs.Tracking
import Mathlib.Control.Monad.Basic

namespace Carousel

/-- The results of those commands that are calls on the cycle under a name are
what the ideal machine answers. -/
def Agree (name : String) (commands : List Command)
    (endings : List (Ending Outcome)) (outcomes : List (Option Outcome)) : Prop :=
  ∀ (index : Nat) (command : Command),
    commands[index]? = some command → command.On name →
      ∃ outcome, outcomes[index]? = some (some outcome) ∧
        endings[index]? = some (.returned outcome)

variable {name : String} {ideal : Ideal} {deployment : Deployment}

theorem Agree.cons {command : Command} {rest : List Command}
    {ending : Ending Outcome} {endings : List (Ending Outcome)}
    {outcome : Option Outcome} {outcomes : List (Option Outcome)}
    (first : command.On name → some ending = outcome.map Ending.returned)
    (agree : Agree name rest endings outcomes) :
    Agree name (command :: rest) (ending :: endings) (outcome :: outcomes) := by
  intro index other listed on
  cases index with
  | zero =>
    cases listed
    obtain ⟨told, same, returned⟩ := Option.map_eq_some_iff.mp (first on).symm
    subst same
    exact ⟨told, rfl, congrArg some returned.symm⟩
  | succ index => exact agree index other listed on

/-- On the track, a history tells on the name what the ideal machine tells, and
stays on the track. -/
theorem Tracks.performAll (tracks : Tracks name ideal deployment)
    {commands : List Command} (modest : ∀ command ∈ commands, command.Modest)
    (spares : ∀ command ∈ commands, command.Spares name) :
    Agree name commands (deployment.performAll commands).1
        (ideal.performAll commands).1 ∧
      Tracks name (ideal.performAll commands).2
        (deployment.performAll commands).2 := by
  induction commands generalizing ideal deployment with
  | nil =>
    constructor
    · intro index command listed on
      cases listed
    · exact tracks
  | cons command rest ih =>
    rw [List.forall_mem_cons] at modest spares
    have after := tracks.perform modest.1 spares.1
    obtain ⟨agree, final⟩ := ih after modest.2 spares.2
    exact ⟨agree.cons (tracks.answered modest.1), final⟩

/-- **Deployments refine the ideal machine.** Take any store contents, any history
of commands that keep to the bundled script, and any name. From the first command
on that creates or removes the cycle under the name and succeeds, if the record
there is written by calls on the cycle alone, every call on it answers what the
ideal machine answers, and the record is that of the ideal wheel, or missing where
there is no wheel. -/
theorem performAll_refines_ideal (sound : deployment.Sound)
    (available : ideal.outage = deployment.store.outage)
    {before after : List Command} {first : Command}
    (modest : ∀ command ∈ before ++ first :: after, command.Modest)
    (founds : first.Founds name)
    (succeeded : (deployment.performAll (before ++ first :: after)).1[before.length]? =
      some (.returned (.ok .unit)))
    (spares : ∀ command ∈ after, command.Spares name) :
    Agree name (first :: after)
        ((deployment.performAll (before ++ first :: after)).1.drop before.length)
        ((ideal.performAll (before ++ first :: after)).1.drop before.length) ∧
      (deployment.performAll (before ++ first :: after)).2.store.records.get? name =
        ((ideal.performAll (before ++ first :: after)).2.wheels name).map
          Wheel.record := by
  have aligned : Aligned ideal deployment := ⟨sound, available.symm⟩
  clear sound available
  induction before generalizing ideal deployment with
  | nil =>
    rw [List.nil_append, List.forall_mem_cons] at modest
    have ended : (deployment.perform first).1 = .returned (.ok .unit) :=
      Option.some.inj succeeded
    obtain ⟨told, tracks⟩ := aligned.founded modest.1 founds ended
    have answered : some (deployment.perform first).1 =
        (ideal.perform first).1.map Ending.returned := by
      rw [ended, told]
      rfl
    obtain ⟨agree, final⟩ := tracks.performAll modest.2 spares
    exact ⟨agree.cons fun _ => answered, final.record_eq⟩
  | cons command rest ih =>
    rw [List.cons_append, List.forall_mem_cons] at modest
    exact ih modest.2 succeeded (aligned.perform modest.1)

/-- A store whose record is corrupt, and a cycle under the same name. -/
def worn : Deployment :=
  .holding (.ofList [("lamps", .ofList [("current", "7x"), ("5", "left over")])])

/-- The cycle under the name of the corrupt record. -/
def lamps : Cycle where
  name := "lamps"
  script := .bundled

/-- An advance that fails on the corrupt record, and one that is refused. -/
def lampsBefore : List Command :=
  [.cycle 0 lamps .next, .store (.setOutage true), .cycle 1 lamps .next,
    .store (.setOutage false)]

/-- The command that puts a cycle in place of the corrupt record. -/
def lampsFounding : Command :=
  .cycle 0 lamps (.create ["red", "green"])

/-- Advances through two executors, an unloaded script and an outage. -/
def lampsAfter : List Command :=
  [.cycle 0 lamps .next, .store .flush, .cycle 1 lamps .next,
    .store (.setOutage true), .cycle 0 lamps .next, .store (.setOutage false),
    .cycle 0 lamps .next, .cycle 1 lamps .remove, .cycle 0 lamps .next]

theorem performAll_refines_ideal_worn :
    (worn.performAll (lampsBefore ++ lampsFounding :: lampsAfter)).1[4]? =
        some (.returned (.ok .unit)) ∧
      Agree "lamps" (lampsFounding :: lampsAfter)
        ((worn.performAll (lampsBefore ++ lampsFounding :: lampsAfter)).1.drop 4)
        [some (.ok .unit), some (.ok (.optionalText (some "red"))), none,
          some (.ok (.optionalText (some "green"))), none,
          some (.error (.store Store.outageFailure)), none,
          some (.ok (.optionalText (some "red"))), some (.ok .unit),
          some (.ok (.optionalText none))] ∧
      (worn.performAll (lampsBefore ++ lampsFounding :: lampsAfter)).2.store.records.get?
        "lamps" = none := by
  have succeeded :
      (worn.performAll (lampsBefore ++ lampsFounding :: lampsAfter)).1[4]? =
        some (.returned (.ok .unit)) := by
    decide +kernel
  have modest : ∀ command ∈ lampsBefore ++ lampsFounding :: lampsAfter,
      command.Modest := by
    simp [lampsBefore, lampsFounding, lampsAfter, lamps, Command.Modest,
      Cycle.Call.Small, Numeral.wordBound, UInt64.size]
  have spares : ∀ command ∈ lampsAfter, command.Spares "lamps" := by
    simp [lampsAfter, Command.Spares]
  have available : (Ideal.mk (fun _ => none) false).outage = worn.store.outage := rfl
  have founds : lampsFounding.Founds "lamps" := rfl
  have refined := performAll_refines_ideal (Deployment.sound_holding _) available
    modest founds succeeded spares
  exact ⟨succeeded, refined.1, refined.2⟩

end Carousel
