/-
# Scripts that share a name

An executor remembers digests by the names of scripts, so a script can be taken for
another one of the same name. What an execution applies first belongs to its own body,
or to a body that a client ran under the same name through the same executor and that
is still loaded. If it claims to be unknown, what is applied next belongs to the
script's own body. So an execution applies nothing but its own body if no other body
was ever run under its name through its executor.

This holds of whatever deployment clients have led to, by requests in any order, of
which carrying out a list of commands one after the other is a case.
-/

import Carousel.Proofs.Once
import Mathlib.Control.Monad.Basic

namespace Carousel

/-- The application is of the native script that is bound to the body. -/
def Application.IsOf (application : Application) (body : String) (deployment : Deployment) :
    Prop :=
  application.digest = Digest.ofBody body ∧
    deployment.store.natives.get? (Digest.ofBody body) = some application.native

namespace Deployment

/-- Commands that are carried out one after the other follow one schedule. -/
theorem exists_reached_eq_performAll (commands : List Command) :
    ∃ schedule, reached commands schedule = (new.performAll commands).2 := by
  have drained : ∀ deployment : Deployment,
      (Pool.drain serve (commands.map fun command => .returned command.client)
        deployment).2 = (deployment.performAll commands).2 := by
    induction commands with
    | nil => exact fun _ => rfl
    | cons command rest ih => exact fun deployment => ih (deployment.perform command).2
  obtain ⟨schedule, ended⟩ := Pool.exists_run_eq_drain serve []
    (commands.map fun command => .returned command.client) new
  refine ⟨schedule, ?_⟩
  rw [← drained]
  exact congrArg Pool.state ended

variable {deployment : Deployment} (executor : Nat) (script : Script)
  (keys args : List String)

section

variable (up : ¬ deployment.store.outage = true) {own : NativeScript}
  (bound : deployment.store.natives.get? (Digest.ofBody script.body) = some own)

include up bound

theorem applications_reloading :
    (account (reloading executor script keys args .done) deployment).2 =
      [deployment.applying (Digest.ofBody script.body) own keys args] := by
  rw [account_reloading_of_bound executor script keys args up bound]
  rfl

/-- Running a digest applies what is bound to it, and after that at most what is bound
to the script's own body. -/
theorem applications_running {digest : String} {native : NativeScript}
    (runnable : deployment.store.runnable digest = some native) :
    ∃ rest,
      (account (running executor script keys args .done digest) deployment).2 =
          deployment.applying digest native keys args :: rest ∧
        ∀ application ∈ rest, application.IsOf script.body deployment := by
  by_cases claims : ∃ unknown, (deployment.applying digest native keys args).result.1 =
      .returned (.error (.noScript unknown))
  · obtain ⟨unknown, claims⟩ := claims
    rw [account_running_of_unknown up runnable keys args executor script claims]
    refine ⟨_, rfl, ?_⟩
    intro application listed
    have stillUp : ¬ (deployment.withRecords
        (deployment.applying digest native keys args).result.2).store.outage = true := up
    rw [applications_reloading executor script keys args stillUp bound] at listed
    rw [List.mem_singleton.mp listed]
    exact ⟨rfl, bound⟩
  · have settles := not_exists.mp claims
    rw [account_running_of_settled up runnable keys args executor script settles]
    refine ⟨[], rfl, ?_⟩
    intro application listed
    cases listed

end

/-- What an execution applies on a deployment to which some commands have led: first the
native script that is bound to the chosen digest, and then at most that of its own body.
The chosen digest is that of its own body, or of a namesake that was run before. -/
structure AppliesNamed (commands : List Command) (deployment : Deployment)
    (executor : Nat) (script : Script) (keys args : List String) : Prop where
  first : ∃ native rest,
    deployment.store.natives.get? (deployment.chosen executor script) = some native ∧
      applications (execute executor script keys args) deployment =
        deployment.applying (deployment.chosen executor script) native keys args :: rest ∧
      ∀ application ∈ rest, application.IsOf script.body deployment
  namesake : deployment.chosen executor script ≠ Digest.ofBody script.body →
    deployment.Ready executor script (deployment.chosen executor script) ∧
      ∃ body, deployment.chosen executor script = Digest.ofBody body ∧
        ∃ command ∈ commands, command.script? = some (executor, ⟨script.name, body⟩)
  own : (∀ command ∈ commands, ∀ body,
      command.script? = some (executor, ⟨script.name, body⟩) → body = script.body) →
    ∀ application ∈ applications (execute executor script keys args) deployment,
      application.IsOf script.body deployment

theorem applications_execute {remit : Remit} (wired : deployment.Wired remit)
    (up : ¬ deployment.store.outage = true) {own : NativeScript}
    (bound : deployment.store.natives.get? (Digest.ofBody script.body) = some own) :
    ∃ native rest,
      deployment.store.natives.get? (deployment.chosen executor script) = some native ∧
        applications (execute executor script keys args) deployment =
          deployment.applying (deployment.chosen executor script) native keys args ::
            rest ∧
        ∀ application ∈ rest, application.IsOf script.body deployment := by
  rcases account_execute_cases executor script keys args up with
    ⟨ready, execution⟩ | ⟨same, execution⟩
  · have known := wired.loaded _ (List.contains_iff_mem.mp ready.2)
    obtain ⟨native, found⟩ := Option.isSome_iff_exists.mp known
    obtain ⟨rest, applied, others⟩ :=
      applications_running executor script keys args up bound (runnable_of_ready ready found)
    exact ⟨native, rest, found, (congrArg Prod.snd execution).trans applied, others⟩
  · rw [same]
    rcases execution with again | first
    · have applied := applications_reloading executor script keys args up bound
      refine ⟨own, [], bound, (congrArg Prod.snd again).trans applied, ?_⟩
      intro application listed
      cases listed
    · have stillUp : ¬ (deployment.enrolled executor script).store.outage = true := up
      rw [account_loading_of_bound executor script keys args up bound] at first
      obtain ⟨rest, applied, others⟩ :=
        applications_running executor script keys args stillUp bound
          (runnable_of_ready (ready_enrolled deployment executor script) bound)
      exact ⟨own, rest, bound, (congrArg Prod.snd first).trans applied, others⟩

/-- An execution chooses another digest than its own only if an executor remembers it
and it is loaded. -/
theorem ready_of_chosen_ne {executor : Nat} {script : Script}
    (other : deployment.chosen executor script ≠ Digest.ofBody script.body) :
    deployment.Ready executor script (deployment.chosen executor script) := by
  cases known : (deployment.cache executor).get? script.name with
  | none => exact absurd (chosen_of_unknown known) other
  | some digest =>
    by_cases loaded : deployment.store.loaded.contains digest = true
    · have ready : deployment.Ready executor script digest := ⟨known, loaded⟩
      rw [chosen_of_ready ready]
      exact ready
    · exact absurd (chosen_of_unloaded known loaded) other

/-- **An execution applies its own body unless a namesake was run before.** -/
theorem applies_named {commands : List Command} {schedule : List Nat}
    (up : (reached commands schedule).store.outage = false)
    (bound : (reached commands schedule).Bound (Digest.ofBody script.body)) :
    AppliesNamed commands (reached commands schedule) executor script keys args := by
  have wired := wired_reached commands schedule
  generalize reached commands schedule = deployment at up bound wired
  have available : ¬ deployment.store.outage = true := by simp [up]
  obtain ⟨own, found⟩ := Option.isSome_iff_exists.mp bound
  obtain ⟨native, rest, chosen, applied, others⟩ :=
    applications_execute executor script keys args wired available found
  have namesake : deployment.chosen executor script ≠ Digest.ofBody script.body →
      deployment.Ready executor script (deployment.chosen executor script) ∧
        ∃ body, deployment.chosen executor script = Digest.ofBody body ∧
          ∃ command ∈ commands,
            command.script? = some (executor, ⟨script.name, body⟩) := by
    intro other
    have ready := ready_of_chosen_ne other
    obtain ⟨body, ran, knows⟩ := wired.cached executor script.name _ ready.1
    exact ⟨ready, body, knows.1, ran⟩
  constructor
  · exact ⟨native, rest, chosen, applied, others⟩
  · exact namesake
  · intro alone application listed
    rw [applied] at listed
    rcases List.mem_cons.mp listed with rfl | later
    · have same : deployment.chosen executor script = Digest.ofBody script.body := by
        by_cases same : deployment.chosen executor script = Digest.ofBody script.body
        · exact same
        · obtain ⟨_, body, digest, command, ran, runs⟩ := namesake same
          rw [alone command ran body runs] at digest
          exact absurd digest same
      rw [same] at chosen ⊢
      exact ⟨rfl, chosen⟩
    · exact others application later

/-- Two bodies with native scripts, the first of which is run under a name. -/
def namesakes : List Command :=
  [.store (.bind "one" (Samples.answering (.int 7))),
    .store (.bind "two" (Samples.answering .nil)), .execute 0 ⟨"bell", "one"⟩ [] []]

/-- The order in which `namesakes` are carried out one after the other. -/
def namesakesOrder : List Nat := [0, 1, 2, 2, 2, 2]

theorem applies_named_namesakes :
    (reached namesakes namesakesOrder).store.outage = false ∧
      (reached namesakes namesakesOrder).Bound (Digest.ofBody "two") ∧
      AppliesNamed namesakes (reached namesakes namesakesOrder) 0 ⟨"bell", "two"⟩ [] [] := by
  have served : (reached namesakes namesakesOrder).store.outage = false ∧
      (reached namesakes namesakesOrder).store.natives.contains (Digest.ofBody "two") =
        true := by
    decide +kernel
  have bound : (reached namesakes namesakesOrder).Bound (Digest.ofBody "two") := served.2
  exact ⟨served.1, bound, applies_named 0 ⟨"bell", "two"⟩ [] [] served.1 bound⟩

/-- The second body is run under the name of the first one. -/
def secondBell : Client (Except Failure Scalar) :=
  execute 0 ⟨"bell", "two"⟩ [] []

theorem namesake_applied :
    (new.performAll namesakes).2.store.natives.contains (Digest.ofBody "one") = true ∧
      (new.performAll namesakes).2.store.natives.contains (Digest.ofBody "two") = true ∧
      Digest.ofBody "one" ≠ Digest.ofBody "two" ∧
      (applications secondBell (new.performAll namesakes).2).map Application.digest =
        [Digest.ofBody "one"] ∧
      (secondBell.run serve (new.performAll namesakes).2).1 =
        .returned (.ok (.int 7)) := by
  decide +kernel

end Deployment

end Carousel
