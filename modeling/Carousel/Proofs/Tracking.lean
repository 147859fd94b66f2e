/-
# Histories that track the ideal machine

A deployment tracks the ideal machine on a name if it is sound and as available,
and if the record under the name is the record of the wheel there, or is missing
where there is no wheel. Every command that does not write the record past its
cycle keeps this, and a call on the cycle answers what the ideal machine answers.

A name comes onto the track when its cycle is created or removed, whatever was
stored under it before, and whatever the ideal machine had in its place. From
then on the history of a deployment and that of the ideal machine tell the same
on the name.
-/

import Carousel.Proofs.Refinement

namespace Carousel

/-- The deployment is sound, and out of service when the ideal machine is. -/
structure Aligned (ideal : Ideal) (deployment : Deployment) : Prop where
  sound : deployment.Sound
  outage_eq : deployment.store.outage = ideal.outage

/-- The deployment shows under a name what the ideal machine has there. -/
structure Tracks (name : String) (ideal : Ideal) (deployment : Deployment) : Prop
    extends Aligned ideal deployment where
  record_eq :
    deployment.store.records.get? name = (ideal.wheels name).map Wheel.record
  small : ∀ held ∈ ideal.wheels name, held.Small

variable {name : String} {ideal : Ideal} {deployment : Deployment}

namespace Ideal

theorem wheels_set_self (ideal : Ideal) (name : String) (wheel : Option Wheel) :
    (ideal.set name wheel).wheels name = wheel :=
  if_pos rfl

theorem wheels_set_of_ne (ideal : Ideal) {name other : String} (apart : other ≠ name)
    (wheel : Option Wheel) : (ideal.set other wheel).wheels name = ideal.wheels name :=
  if_neg (Ne.symm apart)

theorem call_of_outage (down : ideal.outage = true) (call : Cycle.Call) :
    ideal.call name call = (Wheel.refusal name call, ideal) :=
  if_pos down

theorem call_of_up (up : ¬ ideal.outage = true) (call : Cycle.Call) :
    ideal.call name call =
      ((Wheel.call name call (ideal.wheels name)).1,
        ideal.set name (Wheel.call name call (ideal.wheels name)).2) :=
  if_neg up

theorem perform_cycle (executor : Nat) (handle : Cycle) (call : Cycle.Call) :
    ideal.perform (.cycle executor handle call) =
      (some (ideal.call handle.name call).1, (ideal.call handle.name call).2) :=
  rfl

end Ideal

namespace Deployment

/-- A request to the store leaves the deployment that serving it leaves. -/
theorem perform_store (request : Store.Request) :
    (deployment.perform (.store request)).2 =
      (serve (.store request) deployment).2 :=
  congrArg Prod.snd (perform_store_eq request)

end Deployment

/-! ## What a request to the store keeps -/

namespace Aligned

theorem performStore (aligned : Aligned ideal deployment) {request : Store.Request}
    (modest : (Command.store request).Modest) :
    Aligned (ideal.perform (.store request)).2
      (deployment.perform (.store request)).2 := by
  rw [Deployment.perform_store]
  have granted : (Deployment.Request.store request).Modest := by
    cases request with
    | bind body native => exact absurd modest id
    | _ => exact trivial
  exact
    { sound := aligned.sound.serve granted
      outage_eq := by
        rw [Deployment.outage_serve]
        cases request with
        | setOutage on => rfl
        | _ => exact aligned.outage_eq }

end Aligned

/-! ## What one command keeps -/

namespace Aligned

/-- Every modest command keeps a deployment sound, and as available as the ideal
machine. -/
theorem perform (aligned : Aligned ideal deployment) {command : Command}
    (modest : command.Modest) :
    Aligned (ideal.perform command).2 (deployment.perform command).2 := by
  cases command with
  | store request => exact aligned.performStore modest
  | execute executor script keys args => exact absurd modest id
  | cachedDigest executor name => exact aligned
  | cycle executor handle call =>
    rw [Ideal.perform_cycle]
    by_cases down : deployment.store.outage = true
    · rw [Deployment.perform_of_outage down,
        Ideal.call_of_outage (aligned.outage_eq.symm.trans down)]
      exact aligned
    · have follows := Deployment.follows_cycle executor handle aligned.sound
        down modest.1 call
      rw [Ideal.call_of_up (aligned.outage_eq ▸ down)]
      exact ⟨follows.sound, follows.outage_eq.trans aligned.outage_eq⟩

end Aligned

namespace Tracks

/-- A call on the cycle under a name answers what the ideal machine answers. -/
theorem answered (tracks : Tracks name ideal deployment) {command : Command}
    (modest : command.Modest) (on : command.On name) :
    some (deployment.perform command).1 =
      (ideal.perform command).1.map Ending.returned := by
  cases command with
  | store request => exact absurd on id
  | execute executor script keys args => exact absurd on id
  | cachedDigest executor name => exact absurd on id
  | cycle executor handle call =>
    have same : handle.name = name := on
    subst same
    rw [Ideal.perform_cycle]
    by_cases down : deployment.store.outage = true
    · rw [Deployment.perform_of_outage down,
        Ideal.call_of_outage (tracks.outage_eq.symm.trans down)]
      rfl
    · have follows := Deployment.follows_cycle executor handle tracks.sound
        down modest.1 call
      rw [Ideal.call_of_up (tracks.outage_eq ▸ down),
        (follows.turned _ tracks.small tracks.record_eq).1]
      rfl

theorem performStore (tracks : Tracks name ideal deployment)
    {request : Store.Request} (modest : (Command.store request).Modest)
    (spares : (Command.store request).Spares name) :
    Tracks name (ideal.perform (.store request)).2
      (deployment.perform (.store request)).2 := by
  have kept : (ideal.perform (.store request)).2.wheels = ideal.wheels := by
    cases request with
    | _ => rfl
  have spared : (Deployment.Request.store request).Spares name := by
    cases request with
    | eval digest keys args => exact absurd modest id
    | replace key fields | delete key => exact spares
    | _ => trivial
  exact
    { toAligned := tracks.toAligned.perform modest
      record_eq := by
        rw [Deployment.perform_store, tracks.sound.get?_serve spared, tracks.record_eq, kept]
      small := by
        rw [kept]
        exact tracks.small }

theorem performCycle (tracks : Tracks name ideal deployment) {executor : Nat}
    {handle : Cycle} {call : Cycle.Call}
    (modest : (Command.cycle executor handle call).Modest) :
    Tracks name (ideal.perform (.cycle executor handle call)).2
      (deployment.perform (.cycle executor handle call)).2 := by
  have aligned := tracks.toAligned.perform modest
  rw [Ideal.perform_cycle] at aligned ⊢
  by_cases down : deployment.store.outage = true
  · rw [Deployment.perform_of_outage down,
      Ideal.call_of_outage (tracks.outage_eq.symm.trans down)]
    exact tracks
  · have follows := Deployment.follows_cycle executor handle tracks.sound
      down modest.1 call
    rw [Ideal.call_of_up (tracks.outage_eq ▸ down)] at aligned ⊢
    by_cases same : handle.name = name
    · subst same
      exact
        { toAligned := aligned
          record_eq := by
            rw [(follows.turned _ tracks.small tracks.record_eq).2, Ideal.wheels_set_self]
          small := by
            rw [Ideal.wheels_set_self]
            exact Wheel.small_call modest.2 tracks.small }
    · exact
        { toAligned := aligned
          record_eq := by
            rw [follows.frame name same, tracks.record_eq, Ideal.wheels_set_of_ne _ same]
          small := by
            rw [Ideal.wheels_set_of_ne _ same]
            exact tracks.small }

/-- A command that does not write the record past its cycle keeps a deployment on
the track. -/
theorem perform (tracks : Tracks name ideal deployment) {command : Command}
    (modest : command.Modest) (spares : command.Spares name) :
    Tracks name (ideal.perform command).2 (deployment.perform command).2 := by
  cases command with
  | store request => exact tracks.performStore modest spares
  | execute executor script keys args => exact absurd modest id
  | cachedDigest executor other => exact tracks
  | cycle executor handle call => exact tracks.performCycle modest

end Tracks

/-- A name is on the track as soon as its cycle has been created or removed. What
was stored under it before makes no difference, and what the ideal machine had
there makes none either. -/
theorem Aligned.founded (aligned : Aligned ideal deployment)
    {command : Command} (modest : command.Modest) (founds : command.Founds name)
    (succeeded : (deployment.perform command).1 = .returned (.ok .unit)) :
    (ideal.perform command).1 = some (.ok .unit) ∧
      Tracks name (ideal.perform command).2 (deployment.perform command).2 := by
  have after := aligned.perform modest
  cases command with
  | store request => exact absurd founds id
  | execute executor script keys args => exact absurd founds id
  | cachedDigest executor other => exact absurd founds id
  | cycle executor handle call =>
    have up := Deployment.up_of_succeeded succeeded
    rw [Ideal.perform_cycle, Ideal.call_of_up (aligned.outage_eq ▸ up)] at after ⊢
    cases call with
    | exists? => exact absurd founds id
    | createIfMissing elements => exact absurd founds id
    | next => exact absurd founds id
    | create elements =>
      have same : handle.name = name := founds
      subst same
      obtain ⟨wheel, fresh, created⟩ := Deployment.created_of_succeeded succeeded
      have called : Wheel.call handle.name (.create elements)
          (ideal.wheels handle.name) = (.ok .unit, some wheel) := by
        rw [Wheel.call, Wheel.create, fresh]
      constructor
      · exact congrArg (fun result => some result.1) called
      · exact
          { toAligned := after
            record_eq := by
              rw [created, Ideal.wheels_set_self, called]
              exact (Table.get?_insert _ _ _ _).trans (if_pos rfl)
            small := by
              rw [Ideal.wheels_set_self, called]
              intro held found
              cases found
              exact Wheel.small_of_fresh? fresh modest.2 }
    | remove =>
      have same : handle.name = name := founds
      subst same
      constructor
      · rfl
      · exact
          { toAligned := after
            record_eq := by
              rw [Deployment.perform_remove up, Ideal.wheels_set_self]
              exact (Table.get?_erase _ _ _).trans (if_pos rfl)
            small := by
              rw [Ideal.wheels_set_self]
              intro held found
              cases found }

end Carousel
