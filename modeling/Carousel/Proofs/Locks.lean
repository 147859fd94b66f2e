/-
# Locks that stay in use after a panic

A store serves its requests under a lock, and so does the memory of each executor. If a
script panics while the lock of its store is held, the lock is poisoned for good: whoever
takes it from then on is handed what it guards with the remark that this is suspect. No
request leaves anything half written, so the suspect state is used like any other.

A guarded deployment has these locks. Poisoned or not, they make no difference: a guarded
deployment answers every request like the deployment without locks, and guards the same.
That is why locks are not mentioned elsewhere.
-/

import Carousel.Proofs.Requests
import Mathlib.Logic.Function.Basic

namespace Carousel

/-- The call has unwound. -/
def Ending.hasPanicked {α : Type} : Ending α → Bool
  | .returned _ => false
  | .panicked _ => true

/-- Two servers that answer alike, and keep to a relation between their states, cannot be
told apart by any program. -/
theorem Program.run_of_simulates {face : Interface} {α σ τ : Type}
    {first : Server face σ} {second : Server face τ} {related : σ → τ → Prop}
    (simulates : ∀ query left right, related left right →
      (first query left).1 = (second query right).1 ∧
        related (first query left).2 (second query right).2)
    (program : Program face α) {left : σ} {right : τ} (holds : related left right) :
    (program.run first left).1 = (program.run second right).1 ∧
      related (program.run first left).2 (program.run second right).2 := by
  induction program generalizing left right with
  | done result => exact ⟨rfl, holds⟩
  | ask query next ih =>
    obtain ⟨same, after⟩ := simulates query left right holds
    rw [run_ask, run_ask]
    revert same after
    rcases first query left with ⟨ending, left⟩
    rcases second query right with ⟨other, right⟩
    rintro (rfl : ending = other) after
    cases ending with
    | returned answer => exact ih answer after
    | panicked message => exact ⟨rfl, after⟩

/-- What a lock guards, and whether one of its holders has panicked. -/
structure Lock (σ : Type) where
  state : σ
  poisoned : Bool

namespace Lock

variable {α σ : Type} (lock : Lock σ)

/-- Whoever takes the lock is handed what it guards, as suspect if the lock is poisoned. -/
def take : Except σ σ :=
  if lock.poisoned then .error lock.state else .ok lock.state

/-- Take the lock, and make nothing of it if what it guards is suspect. -/
def recover : σ :=
  match lock.take with
  | .ok state => state
  | .error suspect => suspect

/-- Take the lock for some work. A panic poisons it, and nothing makes it sound again. -/
def hold (work : σ → Ending α × σ) : Ending α × Lock σ :=
  let (ending, state) := work lock.recover
  (ending, { state, poisoned := lock.poisoned || ending.hasPanicked })

theorem recover_eq_state : lock.recover = lock.state := by
  rw [recover, take]
  cases lock.poisoned <;> rfl

end Lock

/-- The lock of a store, and those of the memories of its executors. -/
structure Guarded where
  store : Lock Store
  memories : Nat → Lock DigestCache

namespace Guarded

/-- A deployment behind locks of which some are poisoned. -/
def around (deployment : Deployment) (storePoisoned : Bool)
    (memoryPoisoned : Nat → Bool) : Guarded where
  store := ⟨deployment.store, storePoisoned⟩
  memories executor := ⟨deployment.cache executor, memoryPoisoned executor⟩

/-- Work on the memory of an executor under its lock. -/
def holdMemory {α : Type} (guarded : Guarded) (executor : Nat)
    (work : DigestCache → Ending α × DigestCache) : Ending α × Guarded :=
  let (ending, memory) := (guarded.memories executor).hold work
  (ending, { guarded with memories := Function.update guarded.memories executor memory })

/-- Serve one request, under the lock that it needs. A script panics under the lock of the
store. That a request which is refused during an outage would not have to take the lock
cannot be told. -/
def serve : Server Deployment.interface Guarded
  | .store request, guarded =>
    let (ending, store) := guarded.store.hold (Store.serve request)
    (ending, { guarded with store })
  | .lookUp executor name, guarded =>
    guarded.holdMemory executor fun cache => (.returned (cache.get? name), cache)
  | .remember executor name digest, guarded =>
    guarded.holdMemory executor fun cache => (.returned (), cache.insert name digest)

/-- Carry out one command. -/
def perform (command : Command) (guarded : Guarded) : Ending Outcome × Guarded :=
  command.client.run serve guarded

/-- Carry out a history of commands, each on what the one before it left. -/
def performAll : List Command → Guarded → List (Ending Outcome) × Guarded
  | [], guarded => ([], guarded)
  | command :: rest, guarded =>
    let (ending, after) := guarded.perform command
    let (endings, final) := performAll rest after
    (ending :: endings, final)

/-- The locks guard the store and the memories of the deployment. -/
structure Guards (guarded : Guarded) (deployment : Deployment) : Prop where
  store_eq : guarded.store.state = deployment.store
  memory_eq : ∀ executor, (guarded.memories executor).state = deployment.cache executor

theorem guards_around (deployment : Deployment) (storePoisoned : Bool)
    (memoryPoisoned : Nat → Bool) :
    (around deployment storePoisoned memoryPoisoned).Guards deployment :=
  ⟨rfl, fun _ => rfl⟩

variable {guarded : Guarded} {deployment : Deployment}

/-- Work on the memory of an executor comes to the same under the lock, and the locks guard
what it leaves. -/
theorem Guards.holdMemory {α : Type} (guards : guarded.Guards deployment) (executor : Nat)
    (work : DigestCache → Ending α × DigestCache) {after : Deployment}
    (same : after.store = deployment.store)
    (memory_eq : ∀ other, after.cache other =
      if executor = other then (work (deployment.cache executor)).2
      else deployment.cache other) :
    (guarded.holdMemory executor work).1 = (work (deployment.cache executor)).1 ∧
      (guarded.holdMemory executor work).2.Guards after := by
  have handed := (guarded.memories executor).recover_eq_state.trans (guards.memory_eq executor)
  refine ⟨congrArg (fun memory => (work memory).1) handed,
    guards.store_eq.trans same.symm, fun other => ?_⟩
  show (Function.update guarded.memories executor _ other).state = _
  rw [memory_eq]
  by_cases own : executor = other
  · subst own
    rw [if_pos rfl, Function.update_self]
    exact congrArg (fun memory => (work memory).2) handed
  · rw [if_neg own, Function.update_of_ne (Ne.symm own), guards.memory_eq]

/-- Under the locks a request is answered as without them. -/
theorem Guards.serve (guards : guarded.Guards deployment) (request : Deployment.Request) :
    (Guarded.serve request guarded).1 = (Deployment.serve request deployment).1 ∧
      (Guarded.serve request guarded).2.Guards (Deployment.serve request deployment).2 := by
  cases request with
  | store request =>
    have handed := guarded.store.recover_eq_state.trans guards.store_eq
    exact ⟨congrArg (fun store => (Store.serve request store).1) handed,
      congrArg (fun store => (Store.serve request store).2) handed, guards.memory_eq⟩
  | lookUp executor name =>
    apply guards.holdMemory executor
    · rfl
    · intro other
      split
      · rename_i same
        rw [same]
        rfl
      · rfl
  | remember executor name digest =>
    apply guards.holdMemory executor
    · rfl
    · exact fun other => Deployment.cache_remember deployment executor other name digest

theorem Guards.perform (guards : guarded.Guards deployment) (command : Command) :
    (guarded.perform command).1 = (deployment.perform command).1 ∧
      (guarded.perform command).2.Guards (deployment.perform command).2 :=
  command.client.run_of_simulates (fun request _ _ guards => guards.serve request) guards

/-- Under the locks a history comes to what it comes to without them. -/
theorem Guards.performAll (guards : guarded.Guards deployment) (commands : List Command) :
    (guarded.performAll commands).1 = (deployment.performAll commands).1 ∧
      (guarded.performAll commands).2.Guards (deployment.performAll commands).2 := by
  induction commands generalizing guarded deployment with
  | nil => exact ⟨rfl, guards⟩
  | cons command rest ih =>
    obtain ⟨same, after⟩ := guards.perform command
    obtain ⟨others, final⟩ := ih after
    exact ⟨congrArg₂ List.cons same others, final⟩

end Guarded

end Carousel
