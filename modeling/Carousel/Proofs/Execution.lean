/-
# The requests of an execution, one by one

An execution through an executor makes at most seven requests: it looks up the
digest of the script, may load the script and note its digest, runs the script,
and may load, note and run once more. Each request leads to a stage, which is
what is left to be done when the request is about to be made, followed by
whatever comes after the execution.

The stages make executions readable for both ways in which a client can be
carried out: to its end at once, or one request at a time between the requests
of others. The operations of a cycle are listed in the same form.
-/

import Carousel.Command

namespace Carousel

namespace Deployment

section

variable {α : Type} (executor : Nat) (script : Script) (keys args : List String)
  (next : Except Failure Scalar → Client α)

/-- The script is about to be run for the second time. Whatever comes of it is
the answer. -/
def rerunning (digest : String) : Client α :=
  .ask (.store (.eval digest keys args)) next

/-- The digest of the second load is about to be noted. -/
def renoting (digest : String) : Client α :=
  .ask (.remember executor script.name digest) fun _ =>
    rerunning keys args next digest

/-- The script is about to be loaded after the store did not know it. -/
def reloading : Client α :=
  .ask (.store (.load script.body)) fun
    | .error failure => next (.error failure)
    | .ok digest => renoting executor script keys args next digest

/-- What follows the first run. Only a store that does not know the script is
tried again. -/
def afterRun : Except Failure Scalar → Client α
  | .error (.noScript _) => reloading executor script keys args next
  | .error (.unavailable reason) => next (.error (.unavailable reason))
  | .error (.timeout elapsed) => next (.error (.timeout elapsed))
  | .error (.script message) => next (.error (.script message))
  | .ok scalar => next (.ok scalar)

/-- Any failure but that of an unknown script is the answer of an execution. -/
theorem afterRun_eq_next {answer : Except Failure Scalar}
    (known : ∀ digest, answer ≠ .error (.noScript digest)) :
    afterRun executor script keys args next answer = next answer := by
  rcases answer with (reason | elapsed | digest | message) | scalar
  · rfl
  · rfl
  · exact absurd rfl (known digest)
  · rfl
  · rfl

/-- The script is about to be run for the first time. -/
def running (digest : String) : Client α :=
  .ask (.store (.eval digest keys args))
    (afterRun executor script keys args next)

/-- The digest of the first load is about to be noted. -/
def noting (digest : String) : Client α :=
  .ask (.remember executor script.name digest) fun _ =>
    running executor script keys args next digest

/-- The script is about to be loaded because its digest is not known. -/
def loading : Client α :=
  .ask (.store (.load script.body)) fun
    | .error failure => next (.error failure)
    | .ok digest => noting executor script keys args next digest

/-- The digest of the script is about to be looked up. -/
def consulting : Client α :=
  .ask (.lookUp executor script.name) fun
    | some digest => running executor script keys args next digest
    | none => loading executor script keys args next

/-- Registering is a load and, if it succeeds, a note. -/
theorem register_through_bind
    (rest : Except Failure String → Program Executor.interface (Except Failure Scalar)) :
    ((Executor.register script >>= rest).through (executorWire executor)).bind next =
      .ask (.store (.load script.body)) fun
        | .error failure =>
          ((rest (.error failure)).through (executorWire executor)).bind next
        | .ok digest =>
          .ask (.remember executor script.name digest) fun _ =>
            ((rest (.ok digest)).through (executorWire executor)).bind next := by
  refine congrArg (Program.ask _) (funext fun answer => ?_)
  cases answer with
  | error failure => rfl
  | ok digest => rfl

theorem reload_through_bind :
    ((Executor.reload script keys args).through (executorWire executor)).bind next =
      reloading executor script keys args next := by
  rw [Executor.reload, register_through_bind, reloading]
  refine congrArg (Program.ask _) (funext fun answer => ?_)
  cases answer with
  | error failure => rfl
  | ok digest => rfl

/-- Running the script for the first time, and all that may follow. -/
theorem eval_through_bind (digest : String) :
    ((Executor.eval digest keys args >>= fun
        | .error (.noScript _) => Executor.reload script keys args
        | answer => pure answer).through (executorWire executor)).bind next =
      running executor script keys args next digest := by
  refine congrArg (Program.ask _) (funext fun answer => ?_)
  rcases answer with (reason | elapsed | unknown | message) | scalar
  · rfl
  · rfl
  · exact reload_through_bind executor script keys args next
  · rfl
  · rfl

/-- An execution starts with a look into the executor's cache. -/
theorem execute_bind :
    (execute executor script keys args).bind next =
      consulting executor script keys args next := by
  refine congrArg (Program.ask _) (funext fun known => ?_)
  cases known with
  | some digest => exact eval_through_bind executor script keys args next digest
  | none =>
    refine Eq.trans (register_through_bind executor script next _) ?_
    refine congrArg (Program.ask _) (funext fun answer => ?_)
    cases answer with
    | error failure => rfl
    | ok digest =>
      refine congrArg (Program.ask _) (funext fun _ => ?_)
      exact eval_through_bind executor script keys args next digest

end

end Deployment

namespace Command

open Deployment

variable (executor : Nat) (handle : Cycle)

/-- The outcome of an advance whose script answered. -/
def ofScript : Except Failure Scalar → Outcome
  | .error failure => .error (.store failure)
  | .ok scalar => (handle.ofScalar scalar).map .optionalText

/-- A fresh cycle is about to be written. -/
def writing (elements : List String) : Client Outcome :=
  .ask (.store (.replace handle.name (Cycle.freshFields elements))) fun answer =>
    .done (ofAnswer (fun _ => .unit) answer)

/-- An advance has found the cycle and is about to run the script. -/
def advancing : Client Outcome :=
  consulting executor handle.script [handle.name] [] fun answer =>
    .done (ofScript handle answer)

theorem client_exists :
    client (.cycle executor handle .exists?) =
      .ask (.store (.has handle.name)) fun answer => .done (ofAnswer .flag answer) := by
  refine congrArg (Program.ask _) (funext fun answer => ?_)
  cases answer with
  | error failure => rfl
  | ok found => rfl

theorem client_create (elements : List String) :
    client (.cycle executor handle (.create elements)) =
      if elements.isEmpty then .done (.error (.emptyCycle handle.name))
      else writing handle elements := by
  cases elements with
  | nil => rfl
  | cons element rest =>
    refine congrArg (Program.ask _) (funext fun answer => ?_)
    cases answer with
    | error failure => rfl
    | ok done => rfl

theorem client_createIfMissing (elements : List String) :
    client (.cycle executor handle (.createIfMissing elements)) =
      .ask (.store (.has handle.name)) fun
        | .error failure => .done (.error (.store failure))
        | .ok true => .done (.ok .unit)
        | .ok false => client (.cycle executor handle (.create elements)) := by
  refine congrArg (Program.ask _) (funext fun answer => ?_)
  rcases answer with failure | (_ | _)
  · rfl
  · rfl
  · rfl

theorem client_next :
    client (.cycle executor handle .next) =
      .ask (.store (.has handle.name)) fun
        | .error failure => .done (.error (.store failure))
        | .ok true => advancing executor handle
        | .ok false => .done (.ok (.optionalText none)) := by
  refine congrArg (Program.ask _) (funext fun answer => ?_)
  rcases answer with failure | (_ | _)
  · rfl
  · rfl
  · rw [advancing, ← execute_bind]
    refine congrArg
      (Program.bind (Deployment.execute executor handle.script [handle.name] []))
      (funext fun answer => ?_)
    cases answer with
    | error failure => rfl
    | ok scalar => rfl

theorem client_remove :
    client (.cycle executor handle .remove) =
      .ask (.store (.delete handle.name)) fun answer =>
        .done (ofAnswer (fun _ => .unit) answer) := by
  refine congrArg (Program.ask _) (funext fun answer => ?_)
  cases answer with
  | error failure => rfl
  | ok done => rfl

end Command

end Carousel
