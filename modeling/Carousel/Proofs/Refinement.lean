/-
# Deployments do what the ideal machine does

Each operation on a cycle is compared with the ideal machine on its own, first
during an outage, then while the store is available. The comparison of whole
histories needs only what one command keeps.
-/

import Carousel.Proofs.Ideal

namespace Carousel

namespace Deployment

variable {deployment : Deployment} {executor : Nat} {handle : Cycle}

theorem perform_eq_run (command : Command) (deployment : Deployment) :
    deployment.perform command = command.client.run serve deployment :=
  rfl

/-- A request to the store comes to what serving it comes to. -/
theorem perform_store_eq (request : Store.Request) :
    deployment.perform (.store request) =
      ((serve (.store request) deployment).1.map (Command.report request),
        (serve (.store request) deployment).2) := by
  rw [perform_eq_run]
  show (Program.ask (Request.store request) _).run serve deployment = _
  rw [Program.run_ask]
  rcases serve (.store request) deployment with ⟨ending, after⟩
  cases ending with
  | returned answer => rfl
  | panicked message => rfl

/-- During an outage every call on a cycle is refused and changes nothing. -/
theorem perform_of_outage (down : deployment.store.outage = true)
    (call : Cycle.Call) :
    deployment.perform (.cycle executor handle call) =
      (.returned (Wheel.refusal handle.name call), deployment) := by
  have has : deployment.store.has handle.name = .error Store.outageFailure := by
    rw [Store.has, if_pos down]
  rw [perform_eq_run]
  cases call with
  | exists? =>
    rw [Command.client_exists, run_ask_eq_resume _ (serve_has _ _), has]
    rfl
  | create elements =>
    rw [Command.client_create]
    cases elements with
    | nil => rfl
    | cons element rest =>
      rw [if_neg (by simp), Command.writing,
        run_ask_eq_resume _ (serve_replace_of_outage down _ _)]
      rfl
  | createIfMissing elements =>
    rw [Command.client_createIfMissing, run_ask_eq_resume _ (serve_has _ _), has]
    rfl
  | next =>
    rw [Command.client_next, run_ask_eq_resume _ (serve_has _ _), has]
    rfl
  | remove =>
    rw [Command.client_remove, run_ask_eq_resume _ (serve_delete_of_outage down _)]
    rfl

/-! ## Single calls while the store is available -/

section

variable (up : ¬ deployment.store.outage = true)

include up

theorem perform_exists :
    deployment.perform (.cycle executor handle .exists?) =
      (.returned (.ok (.flag (deployment.store.records.get? handle.name).isSome)),
        deployment) := by
  rw [perform_eq_run, Command.client_exists, run_ask_eq_resume _ (serve_has _ _),
    has_eq_of_up up]
  rfl

/-- Creating writes the record of a fresh wheel in place of whatever was there. -/
theorem perform_create {elements : List String} {wheel : Wheel}
    (fresh : Wheel.fresh? elements = some wheel) :
    deployment.perform (.cycle executor handle (.create elements)) =
      (.returned (.ok .unit), deployment.withRecords
        (deployment.store.records.insert handle.name wheel.record)) := by
  have filled : ¬ elements.isEmpty = true := by
    intro empty
    rw [List.isEmpty_iff.mp empty, Wheel.fresh?_nil] at fresh
    cases fresh
  rw [perform_eq_run, Command.client_create, if_neg filled, Command.writing,
    run_ask_eq_resume _ (serve_replace_of_fresh up fresh _)]
  rfl

omit up in
/-- A call that succeeds has not met an outage. -/
theorem up_of_succeeded {call : Cycle.Call} {value : Value}
    (succeeded : (deployment.perform (.cycle executor handle call)).1 =
      .returned (.ok value)) : ¬ deployment.store.outage = true := by
  intro down
  rw [perform_of_outage down] at succeeded
  rcases call with _ | (_ | _) | _ | _ | _ <;> cases succeeded

omit up in
/-- Creating succeeds only with an element, and then writes a fresh wheel. -/
theorem created_of_succeeded {elements : List String} {value : Value}
    (succeeded : (deployment.perform (.cycle executor handle (.create elements))).1 =
      .returned (.ok value)) :
    ∃ wheel, Wheel.fresh? elements = some wheel ∧
      deployment.perform (.cycle executor handle (.create elements)) =
        (.returned (.ok .unit), deployment.withRecords
          (deployment.store.records.insert handle.name wheel.record)) := by
  have up := up_of_succeeded succeeded
  cases elements with
  | nil => cases succeeded
  | cons element rest =>
    have fresh := Wheel.fresh?_cons element rest
    exact ⟨_, fresh, perform_create up fresh⟩

theorem perform_remove :
    deployment.perform (.cycle executor handle .remove) =
      (.returned (.ok .unit), deployment.withRecords
        (deployment.store.records.erase handle.name)) := by
  rw [perform_eq_run, Command.client_remove, run_ask_eq_resume _ (serve_delete up _)]
  rfl

theorem perform_createIfMissing_of_some {record : Record}
    (held : deployment.store.records.get? handle.name = some record)
    (elements : List String) :
    deployment.perform (.cycle executor handle (.createIfMissing elements)) =
      (.returned (.ok .unit), deployment) := by
  rw [perform_eq_run, Command.client_createIfMissing,
    run_ask_eq_resume _ (serve_has _ _), has_eq_of_up up, held]
  rfl

theorem perform_createIfMissing_of_none
    (missing : deployment.store.records.get? handle.name = none)
    (elements : List String) :
    deployment.perform (.cycle executor handle (.createIfMissing elements)) =
      deployment.perform (.cycle executor handle (.create elements)) := by
  rw [perform_eq_run, Command.client_createIfMissing,
    run_ask_eq_resume _ (serve_has _ _), has_eq_of_up up, missing]
  rfl

theorem perform_next_of_none
    (missing : deployment.store.records.get? handle.name = none) :
    deployment.perform (.cycle executor handle .next) =
      (.returned (.ok (.optionalText none)), deployment) := by
  rw [perform_eq_run, Command.client_next, run_ask_eq_resume _ (serve_has _ _),
    has_eq_of_up up, missing]
  rfl

/-- Advancing a cycle that exists applies the native script once. -/
theorem perform_next_of_some (executor : Nat) {record : Record} (sound : deployment.Sound)
    (bundled : handle.script = .bundled)
    (held : deployment.store.records.get? handle.name = some record) :
    ∃ after,
      deployment.Became after
        (Cycle.advance deployment.store.records [handle.name] []).2 ∧
      deployment.perform (.cycle executor handle .next) =
        ((Cycle.advance deployment.store.records [handle.name] []).1.map
          (Command.ofScript handle), after) := by
  obtain ⟨after, became, run⟩ := sound.run_consulting executor [handle.name] []
    (fun answer => .done (Command.ofScript handle answer)) up
  refine ⟨after, became, ?_⟩
  rw [perform_eq_run, Command.client_next, run_ask_eq_resume _ (serve_has _ _),
    has_eq_of_up up, held]
  show (Command.advancing executor handle).run serve deployment = _
  rw [Command.advancing, bundled, run]
  cases (Cycle.advance deployment.store.records [handle.name] []).1 with
  | returned answer => rfl
  | panicked message => rfl

end

/-- What a call on the cycle under a name makes of a deployment. Other records
stay as they are. If there was a wheel under the name, or nothing, the call
answers what it answers on the wheel, and leaves what it leaves of the wheel. -/
structure Follows (name : String) (call : Cycle.Call) (before : Deployment)
    (ended : Ending Outcome × Deployment) : Prop where
  sound : ended.2.Sound
  outage_eq : ended.2.store.outage = before.store.outage
  frame : ∀ other, name ≠ other →
    ended.2.store.records.get? other = before.store.records.get? other
  turned : ∀ wheel : Option Wheel, (∀ held ∈ wheel, held.Small) →
    before.store.records.get? name = wheel.map Wheel.record →
      ended.1 = .returned (Wheel.call name call wheel).1 ∧
      ended.2.store.records.get? name =
        (Wheel.call name call wheel).2.map Wheel.record

section

variable (executor handle)
variable (sound : deployment.Sound) (up : ¬ deployment.store.outage = true)

include sound up

theorem follows_create (elements : List String) :
    Follows handle.name (.create elements) deployment
      (deployment.perform (.cycle executor handle (.create elements))) := by
  cases elements with
  | nil =>
    have refused : deployment.perform (.cycle executor handle (.create [])) =
        (.returned (.error (.emptyCycle handle.name)), deployment) := rfl
    rw [refused]
    exact ⟨sound, rfl, fun _ _ => rfl, fun _ _ held => ⟨rfl, held⟩⟩
  | cons element rest =>
    have fresh := Wheel.fresh?_cons element rest
    rw [perform_create up fresh]
    exact
      { sound := sound.withRecords _
        outage_eq := rfl
        frame := by
          intro other apart
          exact (Table.get?_insert _ _ _ _).trans (if_neg apart)
        turned := by
          intro wheel small held
          rw [Wheel.call, Wheel.create, fresh]
          exact ⟨rfl, (Table.get?_insert _ _ _ _).trans (if_pos rfl)⟩ }

theorem follows_exists :
    Follows handle.name .exists? deployment
      (deployment.perform (.cycle executor handle .exists?)) := by
  rw [perform_exists up]
  exact
    { sound := sound
      outage_eq := rfl
      frame := by
        intro other apart
        rfl
      turned := by
        intro wheel small held
        have found : (deployment.store.records.get? handle.name).isSome = wheel.isSome := by
          rw [held, Option.isSome_map]
        rw [found]
        exact ⟨rfl, held⟩ }

theorem follows_createIfMissing (elements : List String) :
    Follows handle.name (.createIfMissing elements) deployment
      (deployment.perform (.cycle executor handle (.createIfMissing elements))) := by
  cases stored : deployment.store.records.get? handle.name with
  | some record =>
    rw [perform_createIfMissing_of_some up stored]
    exact
      { sound := sound
        outage_eq := rfl
        frame := by
          intro other apart
          rfl
        turned := by
          intro wheel small held
          cases wheel with
          | none =>
            rw [stored] at held
            cases held
          | some wheel => exact ⟨rfl, held⟩ }
  | none =>
    rw [perform_createIfMissing_of_none up stored]
    have created := follows_create executor handle sound up elements
    exact
      { sound := created.sound
        outage_eq := created.outage_eq
        frame := created.frame
        turned := by
          intro wheel small held
          cases wheel with
          | none => exact created.turned none small held
          | some wheel =>
            rw [stored] at held
            cases held }

theorem follows_next (bundled : handle.script = .bundled) :
    Follows handle.name .next deployment
      (deployment.perform (.cycle executor handle .next)) := by
  cases stored : deployment.store.records.get? handle.name with
  | none =>
    rw [perform_next_of_none up stored]
    exact
      { sound := sound
        outage_eq := rfl
        frame := by
          intro other apart
          rfl
        turned := by
          intro wheel small held
          cases wheel with
          | none => exact ⟨rfl, held⟩
          | some wheel =>
            rw [stored] at held
            cases held }
  | some record =>
    obtain ⟨after, became, performed⟩ :=
      perform_next_of_some up executor sound bundled stored
    rw [performed]
    exact
      { sound := became.sound
        outage_eq := became.outage_eq
        frame := by
          intro other apart
          have spared : other ∉ [handle.name] := by simpa using Ne.symm apart
          rw [became.records_eq]
          exact Cycle.get?_advance_of_not_mem spared []
        turned := by
          intro wheel small held
          cases wheel with
          | none =>
            rw [stored] at held
            cases held
          | some wheel =>
            have advanced := wheel.advance_of_record held (small wheel rfl) []
            rw [became.records_eq, advanced]
            exact ⟨rfl, (Table.get?_insert _ _ _ _).trans (if_pos rfl)⟩ }

theorem follows_remove :
    Follows handle.name .remove deployment
      (deployment.perform (.cycle executor handle .remove)) := by
  rw [perform_remove up]
  exact
    { sound := sound.withRecords _
      outage_eq := rfl
      frame := by
        intro other apart
        exact (Table.get?_erase _ _ _).trans (if_neg apart)
      turned := by
        intro wheel small held
        exact ⟨rfl, (Table.get?_erase _ _ _).trans (if_pos rfl)⟩ }

/-- Every call on a cycle follows the ideal machine, one operation at a time. -/
theorem follows_cycle (bundled : handle.script = .bundled) (call : Cycle.Call) :
    Follows handle.name call deployment
      (deployment.perform (.cycle executor handle call)) := by
  cases call with
  | exists? => exact follows_exists executor handle sound up
  | create elements => exact follows_create executor handle sound up elements
  | createIfMissing elements => exact follows_createIfMissing executor handle sound up elements
  | next => exact follows_next executor handle sound up bundled
  | remove => exact follows_remove executor handle sound up

end

end Deployment

end Carousel
