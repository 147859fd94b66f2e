/-
# An execution applies one native script, once

Take any deployment that clients have led to by any requests in any order, while its
store is available, and suppose that no bound native script says of itself that it
is unknown. Then an execution chooses one digest: the one that the executor remembers
under the name of the script, if it is loaded, and else the digest of the script's
own body. If a native script is bound to the chosen digest, it is applied once, to
the records as they are, and the execution comes to what it comes to, be it an answer,
a failure or a panic. Otherwise nothing is applied and nothing is changed.

That the script may have to be loaded first, or once more, cannot be told from the
result. It can be told from the executor's memory, which names the chosen digest
afterwards.
-/

import Carousel.Proofs.Applications
import Carousel.Proofs.Bindings
import Carousel.Proofs.Wheel
import Carousel.Store.Samples

namespace Carousel

/-- A native script never says of itself that it is unknown. -/
def NativeScript.Honest (native : NativeScript) : Prop :=
  ∀ records keys args digest,
    (native records keys args).1 ≠ .returned (.error (.noScript digest))

namespace Deployment

/-- The digest that an execution of a script chooses. -/
def chosen (deployment : Deployment) (executor : Nat) (script : Script) : String :=
  match (deployment.cache executor).get? script.name with
  | some digest =>
    if deployment.store.loaded.contains digest then digest
    else Digest.ofBody script.body
  | none => Digest.ofBody script.body

/-- An executor remembers the digest under the name of the script, and it is loaded. -/
def Ready (deployment : Deployment) (executor : Nat) (script : Script) (digest : String) :
    Prop :=
  (deployment.cache executor).get? script.name = some digest ∧
    deployment.store.loaded.contains digest = true

variable {deployment : Deployment} {executor : Nat} {script : Script}
  {keys args : List String}

theorem chosen_of_ready {digest : String}
    (ready : deployment.Ready executor script digest) :
    deployment.chosen executor script = digest := by
  rw [chosen, ready.1]
  exact if_pos ready.2

theorem chosen_of_unloaded {digest : String}
    (known : (deployment.cache executor).get? script.name = some digest)
    (unloaded : ¬ deployment.store.loaded.contains digest = true) :
    deployment.chosen executor script = Digest.ofBody script.body := by
  rw [chosen, known]
  exact if_neg unloaded

theorem chosen_of_unknown
    (unknown : (deployment.cache executor).get? script.name = none) :
    deployment.chosen executor script = Digest.ofBody script.body := by
  rw [chosen, unknown]

theorem ready_enrolled (deployment : Deployment) (executor : Nat) (script : Script) :
    (deployment.enrolled executor script).Ready executor script
      (Digest.ofBody script.body) := by
  constructor
  · rw [enrolled, get?_cache_remember, if_pos ⟨rfl, rfl⟩]
  · exact List.contains_iff_mem.mpr List.mem_insert_self

theorem runnable_of_ready {digest : String} {native : NativeScript}
    (ready : deployment.Ready executor script digest)
    (bound : deployment.store.natives.get? digest = some native) :
    deployment.store.runnable digest = some native := by
  rw [Store.runnable, if_pos ready.2, bound]

theorem execute_eq_consulting :
    execute executor script keys args = consulting executor script keys args .done := by
  rw [← execute_bind, Program.bind_done]

section

variable (executor script keys args)

/-- An execution runs the digest that it remembers if it is loaded, loads the script
again if it is not, and loads it for the first time if nothing is remembered. -/
theorem account_execute_cases (up : ¬ deployment.store.outage = true) :
    (deployment.Ready executor script (deployment.chosen executor script) ∧
      account (execute executor script keys args) deployment =
        account (running executor script keys args .done
          (deployment.chosen executor script)) deployment) ∨
    (deployment.chosen executor script = Digest.ofBody script.body ∧
      (account (execute executor script keys args) deployment =
          account (reloading executor script keys args .done) deployment ∨
        account (execute executor script keys args) deployment =
          account (loading executor script keys args .done) deployment)) := by
  have looked := account_of_returned (serve_lookUp deployment executor script.name)
    (α := Except Failure Scalar)
  rw [execute_eq_consulting, consulting, looked]
  cases known : (deployment.cache executor).get? script.name with
  | none => exact .inr ⟨chosen_of_unknown known, .inr rfl⟩
  | some digest =>
    by_cases loaded : deployment.store.loaded.contains digest = true
    · have ready : deployment.Ready executor script digest := ⟨known, loaded⟩
      rw [chosen_of_ready ready]
      exact .inl ⟨ready, rfl⟩
    · refine .inr ⟨chosen_of_unloaded known loaded, .inl ?_⟩
      exact account_running_of_unloaded up executor script keys args loaded

/-- Loading the script again, with its own native script bound, applies that once. -/
theorem account_reloading_of_bound (up : ¬ deployment.store.outage = true)
    {native : NativeScript}
    (bound : deployment.store.natives.get? (Digest.ofBody script.body) = some native) :
    account (reloading executor script keys args .done) deployment =
      (deployment.enrolled executor script).concluding
        (deployment.applying (Digest.ofBody script.body) native keys args) := by
  have known : deployment.store.natives.contains (Digest.ofBody script.body) = true := by
    rw [Table.contains, bound]
    rfl
  have stillUp : ¬ (deployment.enrolled executor script).store.outage = true := up
  have runnable := runnable_of_ready (ready_enrolled deployment executor script) bound
  rw [reloading]
  exact (account_load_of_bound up executor script known _ _).trans
    (account_rerunning stillUp runnable keys args)

/-- Loading the script for the first time has its own native script run. -/
theorem account_loading_of_bound (up : ¬ deployment.store.outage = true)
    {native : NativeScript}
    (bound : deployment.store.natives.get? (Digest.ofBody script.body) = some native) :
    account (loading executor script keys args .done) deployment =
      account (running executor script keys args .done (Digest.ofBody script.body))
        (deployment.enrolled executor script) := by
  have known : deployment.store.natives.contains (Digest.ofBody script.body) = true := by
    rw [Table.contains, bound]
    rfl
  rw [loading]
  exact account_load_of_bound up executor script known _ _

/-- An execution with a native script to apply, which does not say of itself that it
is unknown, applies it once. -/
theorem account_execute_of_bound (up : ¬ deployment.store.outage = true)
    {native : NativeScript}
    (bound : deployment.store.natives.get? (deployment.chosen executor script) = some native)
    (settles : ∀ unknown,
      (native deployment.store.records keys args).1 ≠
        .returned (.error (.noScript unknown))) :
    ∃ ready : Deployment, ready.Ready executor script (deployment.chosen executor script) ∧
      account (execute executor script keys args) deployment =
        ready.concluding
          (deployment.applying (deployment.chosen executor script) native keys args) := by
  rcases account_execute_cases executor script keys args up with
    ⟨ready, execution⟩ | ⟨own, execution⟩
  · refine ⟨deployment, ready, ?_⟩
    rw [execution]
    exact account_running_of_settled up (runnable_of_ready ready bound) keys args executor
      script settles
  · rw [own] at bound ⊢
    have ready := ready_enrolled deployment executor script
    refine ⟨_, ready, ?_⟩
    rcases execution with again | first
    · rw [again]
      exact account_reloading_of_bound executor script keys args up bound
    · have stillUp : ¬ (deployment.enrolled executor script).store.outage = true := up
      rw [first, account_loading_of_bound executor script keys args up bound]
      exact account_running_of_settled stillUp (runnable_of_ready ready bound) keys args
        executor script settles

/-- An execution without a native script to apply does nothing but say so. -/
theorem account_execute_of_unbound {remit : Remit} (wired : deployment.Wired remit)
    (up : ¬ deployment.store.outage = true)
    (unbound : deployment.store.natives.get? (deployment.chosen executor script) = none) :
    account (execute executor script keys args) deployment =
      ((.returned (.error (unboundFailure (Digest.ofBody script.body))), deployment), []) := by
  rcases account_execute_cases executor script keys args up with
    ⟨ready, _⟩ | ⟨own, execution⟩
  · -- What is remembered and loaded is bound.
    have bound := wired.loaded _ (List.contains_iff_mem.mp ready.2)
    rw [Bound, Table.contains, unbound] at bound
    cases bound
  · rw [own] at unbound
    have unknown : ¬ deployment.store.natives.contains (Digest.ofBody script.body) = true := by
      simp [Table.contains, unbound]
    rcases execution with again | first
    · rw [again, reloading]
      exact account_load_of_unbound up script unknown _ _
    · rw [first, loading]
      exact account_load_of_unbound up script unknown _ _

end

/-- What an execution comes to on a deployment: one application of the native script
that is bound to the chosen digest, or, if there is none, nothing but a failure. -/
structure ExecutesOnce (deployment : Deployment) (executor : Nat) (script : Script)
    (keys args : List String) : Prop where
  bound : ∀ native,
    deployment.store.natives.get? (deployment.chosen executor script) = some native →
      let ended := (execute executor script keys args).run serve deployment
      applications (execute executor script keys args) deployment =
          [⟨deployment.chosen executor script, native, deployment.store.records, keys, args⟩] ∧
        ended.1 = (native deployment.store.records keys args).1 ∧
        ended.2.store.records = (native deployment.store.records keys args).2 ∧
        (ended.2.cache executor).get? script.name =
          some (deployment.chosen executor script) ∧
        ended.2.store.loaded.contains (deployment.chosen executor script) = true
  unbound :
    deployment.store.natives.get? (deployment.chosen executor script) = none →
      applications (execute executor script keys args) deployment = [] ∧
        (execute executor script keys args).run serve deployment =
          (.returned (.error (unboundFailure (Digest.ofBody script.body))), deployment)
  known : ∀ digest,
    ((execute executor script keys args).run serve deployment).1 ≠
      .returned (.error (.noScript digest))

/-- **An execution applies one native script, once.** -/
theorem executes_once {commands : List Command} {schedule : List Nat}
    (up : (reached commands schedule).store.outage = false)
    (honest : ∀ digest native,
      (reached commands schedule).store.natives.get? digest = some native → native.Honest)
    (executor : Nat) (script : Script) (keys args : List String) :
    ExecutesOnce (reached commands schedule) executor script keys args := by
  have wired := wired_reached commands schedule
  generalize reached commands schedule = deployment at up honest wired
  have available : ¬ deployment.store.outage = true := by simp [up]
  cases found : deployment.store.natives.get? (deployment.chosen executor script) with
  | some native =>
    have settles := honest _ native found deployment.store.records keys args
    obtain ⟨after, ready, execution⟩ :=
      account_execute_of_bound executor script keys args available found settles
    have ran := congrArg Prod.fst execution
    have applied := congrArg Prod.snd execution
    simp only [account, concluding] at ran applied
    exact
      { bound := by
          intro other same
          cases found.symm.trans same
          rw [ran]
          exact ⟨applied, rfl, rfl, ready.1, ready.2⟩
        unbound := by
          intro missing
          rw [missing] at found
          cases found
        known := by
          intro digest
          rw [ran]
          exact settles digest }
  | none =>
    have execution := account_execute_of_unbound executor script keys args wired
      available found
    have ran := congrArg Prod.fst execution
    have applied := congrArg Prod.snd execution
    simp only [account] at ran applied
    exact
      { bound := by
          intro native same
          rw [found] at same
          cases same
        unbound := by
          intro _
          exact ⟨applied, ran⟩
        known := by
          intro digest
          rw [ran]
          simp [unboundFailure] }

/-- A script is bound and run, and unloaded while a record is written. -/
def rung : List Command :=
  [.store (.bind "ring" Samples.count), .execute 0 ⟨"bell", "ring"⟩ [] [],
    .store (.replace "rope" [("length", "9")]), .store .flush]

/-- The order in which the requests of `rung` are served. The run is cut short. -/
def rungOrder : List Nat := [1, 0, 1, 2, 1, 3]

theorem executes_once_rung :
    (reached rung rungOrder).store.outage = false ∧
      (∀ digest native,
        (reached rung rungOrder).store.natives.get? digest = some native → native.Honest) ∧
      ExecutesOnce (reached rung rungOrder) 0 ⟨"bell", "ring"⟩ [] [] := by
  have up : (reached rung rungOrder).store.outage = false := by decide +kernel
  have honest : ∀ digest native,
      (reached rung rungOrder).store.natives.get? digest = some native →
        native.Honest := by
    intro digest native found
    rcases (wired_reached rung rungOrder).bound digest native found with rfl | ⟨body, bound⟩
    · exact Cycle.advance_ne_noScript
    · have same : native = Samples.count := by
        simp [rung] at bound
        exact bound.2
      rw [same]
      intro records keys args unknown
      simp [Samples.count]
  exact ⟨up, honest, executes_once up honest 0 ⟨"bell", "ring"⟩ [] []⟩

end Deployment

end Carousel
