/-
# What an execution applies

An execution makes up to seven requests, of which at most two can apply a native
script to the records. The applications of a client are listed as it makes them:
the digest, the native script that was bound to it, and what the script was applied
to. With the list at hand it can be said that a script was applied once, rather than
only that the records look as if it had been.

Each stage of an execution is described by its account: how it ends, the deployment
that it leaves, and what it applies on the way. Natives may do anything here: fail,
panic, or claim that they are unknown. Only the last makes an execution go on after
it has applied one.
-/

import Carousel.Proofs.Execution
import Carousel.Proofs.Requests

namespace Carousel

/-- The requests that a program makes when it is run, each with the state that it
meets. -/
def Program.trace {face : Interface} {α σ : Type} (serve : Server face σ) :
    Program face α → σ → List (face.Query × σ)
  | .done _, _ => []
  | .ask query next, state =>
    (query, state) ::
      match serve query state with
      | (.returned answer, after) => (next answer).trace serve after
      | (.panicked _, _) => []

/-- A native script that was applied: the digest it was bound to, and the records,
keys and arguments it was applied to. -/
structure Application where
  digest : String
  native : NativeScript
  records : Records
  keys : List String
  args : List String

/-- How a native script ends, and the records that it leaves. -/
def Application.result (application : Application) :
    Ending (Except Failure Scalar) × Records :=
  application.native application.records application.keys application.args

namespace Deployment

/-- The application that a request leads to on the deployment that it meets. -/
def application? : Request × Deployment → Option Application
  | (.store (.eval digest keys args), deployment) =>
    if deployment.store.outage then none
    else
      (deployment.store.runnable digest).map fun native =>
        ⟨digest, native, deployment.store.records, keys, args⟩
  | _ => none

/-- What a client applies when it is run to its end. -/
def applications {α : Type} (client : Client α) (deployment : Deployment) :
    List Application :=
  (client.trace serve deployment).filterMap application?

/-- How a client ends, the deployment that it leaves, and what it applies. -/
def account {α : Type} (client : Client α) (deployment : Deployment) :
    (Ending α × Deployment) × List Application :=
  (client.run serve deployment, applications client deployment)

section

variable {α : Type} {deployment after : Deployment} {request : Request}

/-- A client goes on with the answer that it gets. -/
theorem account_of_returned {answer : request.Answer}
    (served : serve request deployment = (.returned answer, after))
    (rest : request.Answer → Client α) :
    account (.ask request rest) deployment =
      ((account (rest answer) after).1,
        (application? (request, deployment)).toList ++ (account (rest answer) after).2) := by
  simp only [account, applications, Program.run_ask, Program.trace, served,
    List.filterMap_cons]
  cases application? (request, deployment) with
  | none => rfl
  | some application => rfl

/-- A panic ends a client. -/
theorem account_of_panicked {message : String}
    (served : serve request deployment = (.panicked message, after))
    (rest : request.Answer → Client α) :
    account (.ask request rest) deployment =
      ((.panicked message, after), (application? (request, deployment)).toList) := by
  simp only [account, applications, Program.run_ask, Program.trace, served,
    List.filterMap_cons]
  cases application? (request, deployment) with
  | none => rfl
  | some application => rfl

end

/-! ## The stages of an execution -/

/-- The application of the native script that is bound to a digest. -/
def applying (deployment : Deployment) (digest : String) (native : NativeScript)
    (keys args : List String) : Application :=
  ⟨digest, native, deployment.store.records, keys, args⟩

/-- The deployment after an executor has registered a script. -/
def enrolled (deployment : Deployment) (executor : Nat) (script : Script) : Deployment :=
  (deployment.withLoaded (Digest.ofBody script.body)).remember executor script.name
    (Digest.ofBody script.body)

/-- The account of a client that ends with what an application comes to. -/
def concluding (deployment : Deployment) (application : Application) :
    (Ending (Except Failure Scalar) × Deployment) × List Application :=
  ((application.result.1, deployment.withRecords application.result.2), [application])

section

variable {α : Type} {deployment : Deployment} (up : ¬ deployment.store.outage = true)
  {digest : String} {native : NativeScript}
  (runnable : deployment.store.runnable digest = some native) (keys args : List String)

include up runnable

/-- Running a script that is loaded applies the native script that is bound to it. -/
theorem account_eval_of_returned {answer : Except Failure Scalar}
    (ends : (deployment.applying digest native keys args).result.1 = .returned answer)
    (rest : Except Failure Scalar → Client α) :
    account (.ask (.store (.eval digest keys args)) rest) deployment =
      ((account (rest answer) (deployment.withRecords
          (deployment.applying digest native keys args).result.2)).1,
        deployment.applying digest native keys args ::
          (account (rest answer) (deployment.withRecords
            (deployment.applying digest native keys args).result.2)).2) := by
  have served := serve_eval_of_runnable up runnable keys args
  have same : (native deployment.store.records keys args).1 = .returned answer := ends
  rw [same] at served
  rw [account_of_returned served, application?, if_neg up, runnable]
  rfl

theorem account_eval_of_panicked {message : String}
    (ends : (deployment.applying digest native keys args).result.1 = .panicked message)
    (rest : Except Failure Scalar → Client (Except Failure Scalar)) :
    account (.ask (.store (.eval digest keys args)) rest) deployment =
      deployment.concluding (deployment.applying digest native keys args) := by
  have served := serve_eval_of_runnable up runnable keys args
  have same : (native deployment.store.records keys args).1 = .panicked message := ends
  rw [same] at served
  rw [account_of_panicked served, application?, if_neg up, runnable, concluding, ends]
  rfl

/-- Whatever comes of the second run of a script is the answer. -/
theorem account_rerunning :
    account (rerunning keys args .done digest) deployment =
      deployment.concluding (deployment.applying digest native keys args) := by
  rw [rerunning]
  cases ends : (deployment.applying digest native keys args).result.1 with
  | returned answer =>
    rw [account_eval_of_returned up runnable keys args ends, concluding, ends]
    rfl
  | panicked message => exact account_eval_of_panicked up runnable keys args ends _

/-- So is what comes of the first run, unless the native script says that it is
unknown. -/
theorem account_running_of_settled (executor : Nat) (script : Script)
    (settles : ∀ unknown, (deployment.applying digest native keys args).result.1 ≠
      .returned (.error (.noScript unknown))) :
    account (running executor script keys args .done digest) deployment =
      deployment.concluding (deployment.applying digest native keys args) := by
  rw [running]
  cases ends : (deployment.applying digest native keys args).result.1 with
  | panicked message => exact account_eval_of_panicked up runnable keys args ends _
  | returned answer =>
    rw [account_eval_of_returned up runnable keys args ends, afterRun_eq_next, concluding,
      ends]
    · rfl
    · intro unknown same
      exact settles unknown (by rw [ends, same])

/-- A native script that says that it is unknown has been applied all the same. -/
theorem account_running_of_unknown (executor : Nat) (script : Script) {unknown : String}
    (claims : (deployment.applying digest native keys args).result.1 =
      .returned (.error (.noScript unknown))) :
    account (running executor script keys args .done digest) deployment =
      ((account (reloading executor script keys args .done) (deployment.withRecords
          (deployment.applying digest native keys args).result.2)).1,
        deployment.applying digest native keys args ::
          (account (reloading executor script keys args .done) (deployment.withRecords
            (deployment.applying digest native keys args).result.2)).2) :=
  account_eval_of_returned up runnable keys args claims _

end

section

variable {deployment : Deployment} (up : ¬ deployment.store.outage = true)
  (executor : Nat) (script : Script) (keys args : List String)

include up

/-- Running a script that is not loaded applies nothing, and has it loaded again. -/
theorem account_running_of_unloaded {digest : String}
    (unloaded : ¬ deployment.store.loaded.contains digest = true) :
    account (running executor script keys args .done digest) deployment =
      account (reloading executor script keys args .done) deployment := by
  rw [running, account_of_returned (serve_eval_of_unloaded up unloaded keys args),
    application?, if_neg up, Store.runnable, if_neg unloaded]
  rfl

/-- A load gives the digest of the script's own body, which is noted. -/
theorem account_load_of_bound {α : Type}
    (bound : deployment.store.natives.contains (Digest.ofBody script.body) = true)
    (rest : String → Client α) (failed : Failure → Client α) :
    account
        (.ask (.store (.load script.body)) fun
          | .error failure => failed failure
          | .ok digest => .ask (.remember executor script.name digest) fun _ => rest digest)
        deployment =
      account (rest (Digest.ofBody script.body)) (deployment.enrolled executor script) := by
  have noted := serve_remember (deployment.withLoaded (Digest.ofBody script.body)) executor
    script.name (Digest.ofBody script.body)
  rw [account_of_returned (serve_load_of_bound up bound)]
  exact account_of_returned noted fun _ => rest (Digest.ofBody script.body)

theorem account_load_of_unbound {α : Type}
    (unbound : ¬ deployment.store.natives.contains (Digest.ofBody script.body) = true)
    (given : String → Client α) (failed : Failure → Client α) :
    account
        (.ask (.store (.load script.body)) fun
          | .error failure => failed failure
          | .ok digest => given digest)
        deployment =
      account (failed (unboundFailure (Digest.ofBody script.body))) deployment := by
  rw [account_of_returned (serve_load_of_unbound up unbound)]
  rfl

end

end Deployment

end Carousel
