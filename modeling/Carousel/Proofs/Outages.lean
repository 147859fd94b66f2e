/-
# Outages leave no trace

During an outage every command that needs the store is refused, whatever it would have
asked for first, and changes nothing: no record, no loaded script, no memory of an
executor. So a history with outages is the history without the commands that were
refused. What they would have done afterwards is not made up for.

Binding, unloading and switching work during an outage too, and so does a look into the
memory of an executor. They are not refused and stay in the history.
-/

import Carousel.Proofs.Asking
import Carousel.Proofs.Refinement

namespace Carousel

/-- Leave out the items that are marked. Items without a mark stay. -/
def leaveOut {α : Type} : List Bool → List α → List α
  | true :: marks, _ :: rest => leaveOut marks rest
  | false :: marks, item :: rest => item :: leaveOut marks rest
  | _, items => items

namespace Command

/-- Whether a command can be carried out only while the store is available. -/
def needsStore : Command → Bool
  | .store (.bind _ _) => false
  | .store .flush => false
  | .store (.setOutage _) => false
  | .cachedDigest _ _ => false
  | _ => true

/-- What a command that needs the store comes to during an outage. -/
def refusal : Command → Outcome
  | .cycle _ handle call => Wheel.refusal handle.name call
  | _ => .error (.store Store.outageFailure)

/-- Whether there is an outage after a command. -/
def outageAfter (down : Bool) : Command → Bool
  | .store (.setOutage on) => on
  | _ => down

/-- Mark the commands that are issued during an outage and need the store. -/
def refused (down : Bool) : List Command → List Bool
  | [] => []
  | command :: rest =>
    (down && command.needsStore) :: refused (command.outageAfter down) rest

/-- No command asks for a switch unless it is one. -/
theorem eq_setOutage_of_mayAsk {command : Command} {on : Bool}
    (asked : command.MayAsk (.store (.setOutage on))) :
    command = .store (.setOutage on) := by
  match command with
  | .store request =>
    cases asked
    rfl
  | .execute _ _ _ _ => exact asked.elim
  | .cachedDigest _ _ | .cycle _ _ .exists? | .cycle _ _ (.create _)
  | .cycle _ _ .remove => cases asked
  | .cycle _ _ (.createIfMissing _) => rcases asked with asked | asked <;> cases asked
  | .cycle _ _ .next =>
    rcases asked with asked | asked
    · cases asked
    · exact asked.elim

end Command

namespace Deployment

variable {deployment : Deployment}

/-! ## One command -/

/-- Only a switch starts or ends an outage. -/
theorem outage_perform (command : Command) (deployment : Deployment) :
    (deployment.perform command).2.store.outage =
      command.outageAfter deployment.store.outage := by
  by_cases switch : ∃ on, command = .store (.setOutage on)
  · obtain ⟨on, rfl⟩ := switch
    rfl
  · have same : command.outageAfter deployment.store.outage = deployment.store.outage := by
      rw [Command.outageAfter]
      intro on equal
      exact switch ⟨on, equal⟩
    rw [same]
    apply perform_keeps fun after => after.store.outage = deployment.store.outage
    · intro request after asked kept
      rw [outage_serve]
      split
      · rename_i on
        exact absurd ⟨on, Command.eq_setOutage_of_mayAsk asked⟩ switch
      · exact kept
    · rfl

section

variable (down : deployment.store.outage = true)

include down

/-- During an outage an execution fails at the first request that reaches the store,
which is a load or a run. -/
theorem run_consulting_of_outage {α : Type} (executor : Nat) (script : Script)
    (keys args : List String) (next : Except Failure Scalar → Client α) :
    (consulting executor script keys args next).run serve deployment =
      (next (.error Store.outageFailure)).run serve deployment := by
  rw [consulting, run_ask_eq_resume _ (serve_lookUp _ _ _), resume]
  cases (deployment.cache executor).get? script.name with
  | some digest =>
    simp only [running]
    rw [run_ask_eq_resume _ (serve_eval_of_outage down _ _ _)]
    rfl
  | none =>
    simp only [loading]
    rw [run_ask_eq_resume _ (serve_load_of_outage down _)]
    rfl

/-- During an outage a request that needs the store is refused and changes nothing. -/
theorem perform_store_of_outage {request : Store.Request}
    (needs : (Command.store request).needsStore = true) :
    deployment.perform (.store request) =
      (.returned (.error (.store Store.outageFailure)), deployment) := by
  rw [perform_store_eq]
  cases request with
  | has key | read key => simp only [serve, Store.serve, Store.has, Store.read, if_pos down]; rfl
  | replace key fields =>
    rw [serve_replace_of_outage down]
    rfl
  | delete key =>
    rw [serve_delete_of_outage down]
    rfl
  | load body =>
    rw [serve_load_of_outage down]
    rfl
  | eval digest keys args =>
    rw [serve_eval_of_outage down]
    rfl
  | bind body native | flush | setOutage on => cases needs

/-- During an outage a command that needs the store is refused and changes nothing. -/
theorem perform_eq_refusal {command : Command} (needs : command.needsStore = true) :
    deployment.perform command = (.returned command.refusal, deployment) := by
  cases command with
  | store request => exact perform_store_of_outage down needs
  | cachedDigest executor name => cases needs
  | execute executor script keys args =>
    rw [perform_eq_run, Command.client, execute_bind, run_consulting_of_outage down]
    rfl
  | cycle executor handle call => exact perform_of_outage down call

end

/-! ## Whole histories -/

/-- A history is its first command, and the history of the others on what that left. -/
theorem performAll_cons (command : Command) (rest : List Command) (deployment : Deployment) :
    deployment.performAll (command :: rest) =
      ((deployment.perform command).1 ::
          ((deployment.perform command).2.performAll rest).1,
        ((deployment.perform command).2.performAll rest).2) :=
  rfl

/-- **An outage leaves no trace.** Every command that is issued during an outage and
needs the store is refused. Leaving all of these out of a history takes away their
own refusals, and changes nothing else: no other answer, and nothing of what the store
holds or of what executors remember at the end. -/
theorem performAll_leaveOut_refused (commands : List Command) (deployment : Deployment) :
    (∀ (index : Nat) (command : Command), commands[index]? = some command →
      (Command.refused deployment.store.outage commands)[index]? = some true →
        (deployment.performAll commands).1[index]? = some (.returned command.refusal)) ∧
    deployment.performAll
        (leaveOut (Command.refused deployment.store.outage commands) commands) =
      (leaveOut (Command.refused deployment.store.outage commands)
          (deployment.performAll commands).1,
        (deployment.performAll commands).2) := by
  induction commands generalizing deployment with
  | nil =>
    refine ⟨fun index command listed => ?_, rfl⟩
    cases listed
  | cons command rest ih =>
    obtain ⟨refusals, traceless⟩ := ih (deployment.perform command).2
    rw [outage_perform] at refusals traceless
    rw [Command.refused, performAll_cons]
    cases marked : deployment.store.outage && command.needsStore with
    | true =>
      obtain ⟨down, needs⟩ := Bool.and_eq_true_iff.mp marked
      have refused := perform_eq_refusal down needs
      rw [refused] at refusals traceless ⊢
      constructor
      · intro index other listed mark
        cases index with
        | zero =>
          cases listed
          rfl
        | succ index => exact refusals index other listed mark
      · exact traceless
    | false =>
      constructor
      · intro index other listed mark
        cases index with
        | zero => cases mark
        | succ index => exact refusals index other listed mark
      · rw [leaveOut, leaveOut, performAll_cons, traceless]

end Deployment

end Carousel
