/-
# Single requests to a deployment

What a deployment answers to each kind of request, and what the request leaves of
it: which native counterparts are bound, which bodies are loaded, and what executors
remember. Requests that change records are described where they are needed.
-/

import Carousel.Command

namespace Carousel

namespace Store

/-- Only a request to bind a native counterpart changes what is bound. -/
theorem natives_serve (request : Request) (store : Store) :
    (serve request store).2.natives =
      match request with
      | .bind body native => store.natives.insert (Digest.ofBody body) native
      | _ => store.natives := by
  cases request with
  | replace key fields =>
    simp only [serve, replace]
    split <;> rfl
  | delete key =>
    simp only [serve, delete]
    split <;> rfl
  | load body =>
    simp only [serve, load]
    split
    · rfl
    · split <;> rfl
  | eval digest keys args =>
    simp only [serve, eval]
    split
    · rfl
    · split <;> rfl
  | has key | read key | bind body native | flush | setOutage on => rfl

/-- No request makes a store forget what is bound. -/
theorem contains_natives_serve {store : Store} {digest : String}
    (bound : store.natives.contains digest = true) (request : Request) :
    (serve request store).2.natives.contains digest = true := by
  rw [natives_serve]
  cases request with
  | bind body native =>
    rw [Table.contains, Table.get?_insert]
    split
    · rfl
    · exact bound
  | _ => exact bound

/-- Only a switch starts or ends an outage. -/
theorem outage_serve (request : Request) (store : Store) :
    (serve request store).2.outage =
      match request with
      | .setOutage on => on
      | _ => store.outage := by
  cases request with
  | replace key fields =>
    simp only [serve, replace]
    split <;> rfl
  | delete key =>
    simp only [serve, delete]
    split <;> rfl
  | load body =>
    simp only [serve, load]
    split
    · rfl
    · split <;> rfl
  | eval digest keys args =>
    simp only [serve, eval]
    split
    · rfl
    · split <;> rfl
  | has key | read key | bind body native | flush | setOutage on => rfl

/-- Only a load adds to what is loaded. -/
theorem mem_loaded_serve {request : Request} {store : Store} {digest : String}
    (listed : digest ∈ (serve request store).2.loaded) :
    digest ∈ store.loaded ∨ store.natives.contains digest = true := by
  cases request with
  | load body =>
    simp only [serve, load] at listed
    split at listed
    · exact .inl listed
    · split at listed
      · rename_i bound
        rcases List.mem_insert_iff.mp listed with same | before
        · exact .inr (same ▸ bound)
        · exact .inl before
      · exact .inl listed
  | flush => cases listed
  | replace key fields =>
    simp only [serve, replace] at listed
    split at listed <;> exact .inl listed
  | delete key =>
    simp only [serve, delete] at listed
    split at listed <;> exact .inl listed
  | eval digest keys args =>
    simp only [serve, eval] at listed
    split at listed
    · exact .inl listed
    · split at listed <;> exact .inl listed
  | has key | read key | bind body native | setOutage on => exact .inl listed

/-- A digest can be run if it is loaded and a native script is bound to it. -/
theorem runnable_eq_some_iff {store : Store} {digest : String} {native : NativeScript} :
    store.runnable digest = some native ↔
      digest ∈ store.loaded ∧ store.natives.get? digest = some native := by
  rw [runnable, ← List.contains_iff_mem]
  split
  · rename_i loaded
    exact ⟨fun found => ⟨loaded, found⟩, And.right⟩
  · rename_i unloaded
    exact iff_of_false nofun fun both => unloaded both.1

end Store

namespace Deployment

/-- The deployment with other records in its store. -/
def withRecords (deployment : Deployment) (records : Records) : Deployment :=
  { deployment with store := { deployment.store with records } }

/-- The deployment with the body loaded that belongs to a digest. -/
def withLoaded (deployment : Deployment) (digest : String) : Deployment :=
  { deployment with
    store := { deployment.store with loaded := deployment.store.loaded.insert digest } }

/-- The failure of a load without a native counterpart. -/
def unboundFailure (digest : String) : Failure :=
  .script ("no native implementation bound for script " ++ digest)

variable {deployment : Deployment}

/-- Noting a digest changes the memory of one executor. -/
theorem cache_remember (deployment : Deployment) (executor other : Nat)
    (name digest : String) :
    (deployment.remember executor name digest).cache other =
      if executor = other then (deployment.cache executor).insert name digest
      else deployment.cache other := by
  rw [cache, remember, Table.get?_insert]
  split <;> rfl

theorem get?_cache_remember (executor other : Nat) (name digest sought : String) :
    ((deployment.remember executor name digest).cache other).get? sought =
      if executor = other ∧ name = sought then some digest
      else (deployment.cache other).get? sought := by
  rw [cache_remember]
  by_cases same : executor = other
  · subst same
    rw [if_pos rfl, Table.get?_insert]
    by_cases named : name = sought <;> simp [named]
  · rw [if_neg same, if_neg fun both => same both.1]

section

variable (deployment)

theorem serve_lookUp (executor : Nat) (name : String) :
    serve (.lookUp executor name) deployment =
      (.returned ((deployment.cache executor).get? name), deployment) :=
  rfl

theorem serve_remember (executor : Nat) (name digest : String) :
    serve (.remember executor name digest) deployment =
      (.returned (), deployment.remember executor name digest) :=
  rfl

theorem serve_has (key : String) :
    serve (.store (.has key)) deployment =
      (.returned (deployment.store.has key), deployment) :=
  rfl

end

/-- Only a switch starts or ends an outage. -/
theorem outage_serve (request : Request) (deployment : Deployment) :
    (serve request deployment).2.store.outage =
      match request with
      | .store (.setOutage on) => on
      | _ => deployment.store.outage := by
  cases request with
  | lookUp executor name | remember executor name digest => rfl
  | store request =>
    refine (Store.outage_serve request deployment.store).trans ?_
    cases request <;> rfl

/-- What is bound after a request was bound before, or the request binds it. -/
theorem bound_or_binds {request : Request} {digest : String} {native : NativeScript}
    (bound : (serve request deployment).2.store.natives.get? digest = some native) :
    deployment.store.natives.get? digest = some native ∨
      ∃ body, digest = Digest.ofBody body ∧ request = .store (.bind body native) := by
  cases request with
  | lookUp executor name | remember executor name noted => exact .inl bound
  | store request =>
    change (Store.serve request deployment.store).2.natives.get? digest = some native at bound
    rw [Store.natives_serve] at bound
    cases request with
    | bind body made =>
      rw [Table.get?_insert] at bound
      split at bound
      · rename_i same
        cases bound
        exact .inr ⟨body, same.symm, rfl⟩
      · exact .inl bound
    | _ => exact .inl bound

/-- A load that succeeds gives out the digest of the body, which is bound. -/
theorem eq_ofBody_of_load {body digest : String}
    (served : (serve (.store (.load body)) deployment).1 = .returned (.ok digest)) :
    digest = Digest.ofBody body ∧
      deployment.store.natives.contains (Digest.ofBody body) = true := by
  simp only [serve, Store.serve, Store.load] at served
  split at served
  · cases served
  · split at served
    · rename_i bound
      cases served
      exact ⟨rfl, bound⟩
    · cases served

/-- A request misses a record if it does not write it. A run writes what the native
script writes that is run. -/
def Request.Misses (deployment : Deployment) (name : String) : Request → Prop
  | .store (.replace key _) => key ≠ name
  | .store (.delete key) => key ≠ name
  | .store (.eval digest keys args) =>
    ∀ native, deployment.store.runnable digest = some native →
      (native deployment.store.records keys args).2.get? name =
        deployment.store.records.get? name
  | _ => True

/-- A request that misses a record leaves it as it is. -/
theorem get?_serve_of_misses {request : Request} {name : String}
    (misses : request.Misses deployment name) :
    (serve request deployment).2.store.records.get? name =
      deployment.store.records.get? name := by
  match request with
  | .store (.replace key fields) =>
    have apart : key ≠ name := misses
    simp only [serve, Store.serve, Store.replace]
    split
    · rfl
    · split
      · exact (Table.get?_erase _ _ _).trans (if_neg apart)
      · exact (Table.get?_insert _ _ _ _).trans (if_neg apart)
  | .store (.delete key) =>
    have apart : key ≠ name := misses
    simp only [serve, Store.serve, Store.delete]
    split
    · rfl
    · exact (Table.get?_erase _ _ _).trans (if_neg apart)
  | .store (.load body) =>
    simp only [serve, Store.serve, Store.load]
    split
    · rfl
    · split <;> rfl
  | .store (.eval digest keys args) =>
    simp only [serve, Store.serve, Store.eval]
    split
    · rfl
    · cases runnable : deployment.store.runnable digest with
      | none => rfl
      | some native => exact misses native runnable
  | .store (.has _) | .store (.read _) | .store (.bind _ _) | .store .flush
  | .store (.setOutage _) | .lookUp _ _ | .remember _ _ _ => rfl

/-- During an outage a load, like a run, fails and changes nothing. -/
theorem serve_load_of_outage (down : deployment.store.outage = true)
    (body : String) :
    serve (.store (.load body)) deployment =
      (.returned (.error Store.outageFailure), deployment) := by
  simp only [serve, Store.serve, Store.load, if_pos down]

theorem serve_eval_of_outage (down : deployment.store.outage = true)
    (digest : String) (keys args : List String) :
    serve (.store (.eval digest keys args)) deployment =
      (.returned (.error Store.outageFailure), deployment) := by
  simp only [serve, Store.serve, Store.eval, if_pos down]

theorem serve_replace_of_outage (down : deployment.store.outage = true) (key : String)
    (fields : List (String × String)) :
    serve (.store (.replace key fields)) deployment =
      (.returned (.error Store.outageFailure), deployment) := by
  simp only [serve, Store.serve, Store.replace, if_pos down]

theorem serve_delete_of_outage (down : deployment.store.outage = true) (key : String) :
    serve (.store (.delete key)) deployment =
      (.returned (.error Store.outageFailure), deployment) := by
  simp only [serve, Store.serve, Store.delete, if_pos down]

variable (up : ¬ deployment.store.outage = true)

include up

theorem has_eq_of_up (key : String) :
    deployment.store.has key = .ok (deployment.store.records.get? key).isSome := by
  rw [Store.has, if_neg up, Table.contains]

/-- Replacing takes away the record if there are no fields, and else puts them there. -/
theorem serve_replace (key : String) (fields : List (String × String)) :
    serve (.store (.replace key fields)) deployment =
      (.returned (.ok ()), deployment.withRecords
        (if (Table.ofList fields).isEmpty then deployment.store.records.erase key
          else deployment.store.records.insert key (.ofList fields))) := by
  simp only [serve, Store.serve, Store.replace, if_neg up]
  rfl

theorem serve_delete (key : String) :
    serve (.store (.delete key)) deployment =
      (.returned (.ok ()), deployment.withRecords (deployment.store.records.erase key)) := by
  simp only [serve, Store.serve, Store.delete, if_neg up]
  rfl

theorem serve_load_of_bound {body : String}
    (bound : deployment.store.natives.contains (Digest.ofBody body) = true) :
    serve (.store (.load body)) deployment =
      (.returned (.ok (Digest.ofBody body)),
        deployment.withLoaded (Digest.ofBody body)) := by
  simp only [serve, Store.serve, Store.load, if_neg up, if_pos bound]
  rfl

theorem serve_load_of_unbound {body : String}
    (unbound : ¬ deployment.store.natives.contains (Digest.ofBody body) = true) :
    serve (.store (.load body)) deployment =
      (.returned (.error (unboundFailure (Digest.ofBody body))), deployment) := by
  simp only [serve, Store.serve, Store.load, if_neg up, if_neg unbound]
  rfl

theorem serve_eval_of_runnable {digest : String} {native : NativeScript}
    (runnable : deployment.store.runnable digest = some native) (keys args : List String) :
    serve (.store (.eval digest keys args)) deployment =
      ((native deployment.store.records keys args).1,
        deployment.withRecords (native deployment.store.records keys args).2) := by
  simp only [serve, Store.serve, Store.eval, if_neg up, runnable]
  rfl

theorem serve_eval_of_unrunnable {digest : String}
    (unrunnable : deployment.store.runnable digest = none) (keys args : List String) :
    serve (.store (.eval digest keys args)) deployment =
      (.returned (.error (.noScript digest)), deployment) := by
  simp only [serve, Store.serve, Store.eval, if_neg up, unrunnable]

theorem serve_eval_of_unloaded {digest : String}
    (unloaded : ¬ deployment.store.loaded.contains digest = true)
    (keys args : List String) :
    serve (.store (.eval digest keys args)) deployment =
      (.returned (.error (.noScript digest)), deployment) :=
  serve_eval_of_unrunnable up (by rw [Store.runnable, if_neg unloaded]) keys args

end Deployment

end Carousel
