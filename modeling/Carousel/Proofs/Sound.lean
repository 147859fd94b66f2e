/-
# Deployments that know the bundled script

A deployment is sound if its store runs the native counterpart of the bundled
script for it, and if no executor remembers another digest under its name. A
store is born sound, and no client of cycles can make a deployment unsound. What
the records hold, and which scripts are loaded at the moment, does not matter.

On a sound deployment each request of an execution of the bundled script has one
of two or three answers, which are listed here. An execution that is carried out
to its end amounts to one application of the native script, however often the
scripts were unloaded before it.
-/

import Carousel.Proofs.Execution
import Carousel.Proofs.Requests
import Carousel.Proofs.Wheel

namespace Carousel

/-- The digest by which a store knows the bundled script. -/
def Script.bundledDigest : String :=
  Digest.ofBody bundled.body

namespace Deployment

/-- The deployment with the bundled script loaded. -/
def withBundled (deployment : Deployment) : Deployment :=
  { deployment with
    store :=
      { deployment.store with
        loaded := deployment.store.loaded.insert Script.bundledDigest } }

/-- The deployment after an executor has registered the bundled script. -/
def registered (deployment : Deployment) (executor : Nat) : Deployment :=
  deployment.withBundled.remember executor Script.bundled.name
    Script.bundledDigest

/-- A store that holds the given records and knows the bundled script, with
executors that have not run anything yet. -/
def holding (records : Records) : Deployment :=
  new.withRecords records

/-- The bundled script is run by its native counterpart, and known to executors
under its own digest or not at all. -/
structure Sound (deployment : Deployment) : Prop where
  native :
    deployment.store.natives.get? Script.bundledDigest = some Cycle.advance
  cached : ∀ executor digest,
    (deployment.cache executor).get? Script.bundledName = some digest →
      digest = Script.bundledDigest

/-- Requests that neither bind the digest of the bundled script anew nor note
another digest under its name. -/
def Request.Modest : Request → Prop
  | .store (.bind body _) => Digest.ofBody body ≠ Script.bundledDigest
  | .remember _ name digest =>
    name = Script.bundledName → digest = Script.bundledDigest
  | _ => True

theorem sound_holding (records : Records) : (holding records).Sound where
  native := by
    show (Table.empty.insert Script.bundledDigest Cycle.advance).get? _ = _
    rw [Table.get?_insert, if_pos rfl]
  cached := by
    intro executor digest known
    cases known

variable {deployment : Deployment}

theorem Sound.withRecords (sound : deployment.Sound) (records : Records) :
    (deployment.withRecords records).Sound :=
  ⟨sound.native, sound.cached⟩

theorem Sound.withBundled (sound : deployment.Sound) :
    deployment.withBundled.Sound :=
  ⟨sound.native, sound.cached⟩

theorem Sound.remember (sound : deployment.Sound) {executor : Nat}
    {name digest : String}
    (modest : name = Script.bundledName → digest = Script.bundledDigest) :
    (deployment.remember executor name digest).Sound where
  native := sound.native
  cached := by
    intro other known found
    rw [get?_cache_remember] at found
    split at found
    · rename_i noted
      cases found
      exact modest noted.2
    · exact sound.cached other known found

theorem Sound.registered (sound : deployment.Sound) (executor : Nat) :
    (deployment.registered executor).Sound :=
  sound.withBundled.remember fun _ => rfl

/-- No modest request makes a deployment unsound. -/
theorem Sound.serve (sound : deployment.Sound) {request : Request}
    (modest : request.Modest) : (serve request deployment).2.Sound := by
  cases request with
  | lookUp executor name => exact sound
  | remember executor name digest => exact sound.remember modest
  | store request =>
    refine ⟨?_, sound.cached⟩
    show (Store.serve request deployment.store).2.natives.get? _ = _
    rw [Store.natives_serve]
    cases request with
    | bind body native =>
      rw [Table.get?_insert, if_neg modest]
      exact sound.native
    | _ => exact sound.native

/-- Requests that do not write the record under the name: neither directly, nor by
running a script other than the bundled one. -/
def Request.Spares (name : String) : Request → Prop
  | .store (.replace key _) => key ≠ name
  | .store (.delete key) => key ≠ name
  | .store (.eval digest keys _) => digest = Script.bundledDigest ∧ name ∉ keys
  | _ => True

/-! ## Single requests -/

variable (up : ¬ deployment.store.outage = true)

include up

/-- Writing the fields of a fresh cycle leaves the record of a wheel. -/
theorem serve_replace_of_fresh {elements : List String} {wheel : Wheel}
    (fresh : Wheel.fresh? elements = some wheel) (key : String) :
    Deployment.serve (.store (.replace key (Cycle.freshFields elements))) deployment =
      (.returned (.ok ()),
        deployment.withRecords (deployment.store.records.insert key wheel.record)) := by
  rw [serve_replace up, Wheel.ofList_freshFields fresh, wheel.isEmpty_record]
  rfl

theorem Sound.serve_load (sound : deployment.Sound) :
    Deployment.serve (.store (.load Script.bundled.body)) deployment =
      (.returned (.ok Script.bundledDigest), deployment.withBundled) := by
  have bound : deployment.store.natives.contains Script.bundledDigest = true := by
    rw [Table.contains, sound.native]
    rfl
  exact serve_load_of_bound up bound

theorem Sound.serve_eval_of_loaded (sound : deployment.Sound)
    (loaded : deployment.store.loaded.contains Script.bundledDigest = true)
    (keys args : List String) :
    Deployment.serve (.store (.eval Script.bundledDigest keys args)) deployment =
      ((Cycle.advance deployment.store.records keys args).1,
        deployment.withRecords
          (Cycle.advance deployment.store.records keys args).2) := by
  apply serve_eval_of_runnable up
  rw [Store.runnable, if_pos loaded, sound.native]

omit up

/-- A request that spares a name leaves the record under it alone. -/
theorem Sound.get?_serve (sound : deployment.Sound) {request : Request} {name : String}
    (spares : request.Spares name) :
    (Deployment.serve request deployment).2.store.records.get? name =
      deployment.store.records.get? name := by
  apply get?_serve_of_misses
  match request with
  | .store (.replace _ _) | .store (.delete _) => exact spares
  | .store (.eval digest keys args) =>
    obtain ⟨rfl, apart⟩ := spares
    intro native runnable
    have bound := (Store.runnable_eq_some_iff.mp runnable).2
    rw [sound.native] at bound
    cases bound
    exact Cycle.get?_advance_of_not_mem apart args
  | .store (.has _) | .store (.read _) | .store (.load _) | .store (.bind _ _)
  | .store .flush | .store (.setOutage _) | .lookUp _ _ | .remember _ _ _ => trivial

theorem loaded_registered (executor : Nat) :
    (deployment.registered executor).store.loaded.contains Script.bundledDigest =
      true :=
  List.contains_iff_mem.mpr List.mem_insert_self

/-! ## Executions that are carried out to their end -/

/-- One deployment came of another: it is still sound and as available as before,
and holds the given records. -/
structure Became (before after : Deployment) (records : Records) : Prop where
  sound : after.Sound
  records_eq : after.store.records = records
  outage_eq : after.store.outage = before.store.outage

/-- Go on with the answer to a request. A panic ends the run. -/
def resume {α β : Type} (next : β → Client α) :
    Ending β → Deployment → Ending α × Deployment
  | .returned answer, after => (next answer).run serve after
  | .panicked message, after => (.panicked message, after)

section

variable {α : Type} (executor : Nat) (keys args : List String)
  (next : Except Failure Scalar → Client α)

theorem run_ask_eq_resume {request : Request} {ending : Ending request.Answer}
    {after : Deployment} (rest : request.Answer → Client α)
    (served : serve request deployment = (ending, after)) :
    (Program.ask request rest).run serve deployment = resume rest ending after := by
  rw [Program.run_ask, served]
  cases ending with
  | returned answer => rfl
  | panicked message => rfl

/-- Running the bundled script when it is loaded applies the native script once,
and its answer is the answer of the execution. -/
theorem Sound.run_running (sound : deployment.Sound)
    (up : ¬ deployment.store.outage = true)
    (loaded : deployment.store.loaded.contains Script.bundledDigest = true) :
    (running executor .bundled keys args next Script.bundledDigest).run
        Deployment.serve deployment =
      resume next (Cycle.advance deployment.store.records keys args).1
        (deployment.withRecords
          (Cycle.advance deployment.store.records keys args).2) := by
  have known := Cycle.advance_ne_noScript deployment.store.records keys args
  rw [running, run_ask_eq_resume _ (sound.serve_eval_of_loaded up loaded keys args)]
  cases ending : (Cycle.advance deployment.store.records keys args).1 with
  | panicked message => rfl
  | returned answer =>
    rw [resume, afterRun_eq_next, resume]
    intro digest same
    exact known digest (by rw [ending, same])

/-- Loading the bundled script and running it once more applies the native script
once. -/
theorem Sound.run_reloading (sound : deployment.Sound)
    (up : ¬ deployment.store.outage = true) :
    ∃ after,
      deployment.Became after (Cycle.advance deployment.store.records keys args).2 ∧
      (reloading executor .bundled keys args next).run Deployment.serve deployment =
        resume next (Cycle.advance deployment.store.records keys args).1 after := by
  have registered := sound.registered executor
  have stillUp : ¬ (deployment.registered executor).store.outage = true := up
  refine ⟨_, ⟨registered.withRecords _, rfl, rfl⟩, ?_⟩
  rw [reloading, run_ask_eq_resume _ (sound.serve_load up), resume]
  simp only [renoting]
  rw [run_ask_eq_resume _ (serve_remember _ _ _ _), resume]
  exact run_ask_eq_resume _ (registered.serve_eval_of_loaded stillUp
    (loaded_registered executor) keys args)

/-- Executing the bundled script while the store is available applies the native
script once, whatever is loaded and remembered. -/
theorem Sound.run_consulting (sound : deployment.Sound)
    (up : ¬ deployment.store.outage = true) :
    ∃ after,
      deployment.Became after (Cycle.advance deployment.store.records keys args).2 ∧
      (consulting executor .bundled keys args next).run Deployment.serve deployment =
        resume next (Cycle.advance deployment.store.records keys args).1 after := by
  rw [consulting, run_ask_eq_resume _ (serve_lookUp _ _ _), resume]
  cases known : (deployment.cache executor).get? Script.bundled.name with
  | some digest =>
    have same := sound.cached executor digest known
    subst same
    by_cases loaded : deployment.store.loaded.contains Script.bundledDigest = true
    · exact ⟨_, ⟨sound.withRecords _, rfl, rfl⟩,
        sound.run_running executor keys args next up loaded⟩
    · simp only [running]
      rw [run_ask_eq_resume _ (serve_eval_of_unloaded up loaded _ _), resume]
      exact sound.run_reloading executor keys args next up
  | none =>
    have registered := sound.registered executor
    have stillUp : ¬ (deployment.registered executor).store.outage = true := up
    refine ⟨_, ⟨registered.withRecords _, rfl, rfl⟩, ?_⟩
    simp only [loading]
    rw [run_ask_eq_resume _ (sound.serve_load up), resume]
    simp only [noting]
    rw [run_ask_eq_resume _ (serve_remember _ _ _ _), resume]
    exact registered.run_running executor keys args next stillUp
      (loaded_registered executor)

end

end Deployment

end Carousel
