/-
# Commands to a deployment

A command is one call by a user of a deployment: a request to the store, a
script run through an executor, a look into an executor's cache, or an
operation on a cycle. A history is a list of commands, each of which is carried
out to its end before the next one starts. A command that fails or panics ends
only itself.
-/

import Carousel.Deployment

namespace Carousel

/-- A call of an operation on a cycle. -/
inductive Cycle.Call
  | exists?
  | create (elements : List String)
  | createIfMissing (elements : List String)
  | next
  | remove

/-- What a command hands back. -/
inductive Value
  | unit
  | flag (value : Bool)
  | text (value : String)
  | optionalText (value : Option String)
  | record (value : Option Record)
  | scalar (value : Scalar)
  deriving DecidableEq

/-- One call by a user of a deployment. -/
inductive Command
  | store (request : Store.Request)
  | execute (executor : Nat) (script : Script) (keys args : List String)
  | cachedDigest (executor : Nat) (name : String)
  | cycle (executor : Nat) (handle : Cycle) (call : Cycle.Call)

/-- The result of a command, unless it fails. -/
abbrev Outcome := Except Fault Value

namespace Command

/-- The outcome that the answer to a request of the store stands for. -/
def ofAnswer {α : Type} (value : α → Value) : Except Failure α → Outcome
  | .error failure => .error (.store failure)
  | .ok answer => .ok (value answer)

/-- The outcome of a request to the store. -/
def report : (request : Store.Request) → request.Answer → Outcome
  | .has _, answer => ofAnswer .flag answer
  | .replace _ _, answer => ofAnswer (fun _ => .unit) answer
  | .delete _, answer => ofAnswer (fun _ => .unit) answer
  | .read _, answer => ofAnswer .record answer
  | .load _, answer => ofAnswer .text answer
  | .eval _ _ _, answer => ofAnswer .scalar answer
  | .bind _ _, _ => .ok .unit
  | .flush, _ => .ok .unit
  | .setOutage _, _ => .ok .unit

/-- The operation on a cycle that a call names. -/
def operation (handle : Cycle) : Cycle.Call → Cycle.Operation Value
  | .exists? => (handle.exists?).bind fun found => .done (found.map .flag)
  | .create elements =>
    (handle.create elements).bind fun done => .done (done.map fun _ => .unit)
  | .createIfMissing elements =>
    (handle.createIfMissing elements).bind fun done =>
      .done (done.map fun _ => .unit)
  | .next => (handle.next).bind fun found => .done (found.map .optionalText)
  | .remove => (handle.remove).bind fun done => .done (done.map fun _ => .unit)

/-- The requests that a command makes. -/
def client : Command → Deployment.Client Outcome
  | .store request =>
    (Deployment.ask request).bind fun answer => .done (report request answer)
  | .execute executor script keys args =>
    (Deployment.execute executor script keys args).bind fun answer =>
      .done (ofAnswer .scalar answer)
  | .cachedDigest executor name =>
    .ask (.lookUp executor name) fun digest => .done (.ok (.optionalText digest))
  | .cycle executor handle call =>
    Deployment.operate executor (operation handle call)

end Command

namespace Deployment

/-- Carry out one command. -/
def perform (command : Command) (deployment : Deployment) :
    Ending Outcome × Deployment :=
  command.client.run serve deployment

/-- Carry out a history of commands, each on what the one before it left. -/
def performAll : List Command → Deployment →
    List (Ending Outcome) × Deployment
  | [], deployment => ([], deployment)
  | command :: rest, deployment =>
    let (ending, after) := deployment.perform command
    let (endings, final) := performAll rest after
    (ending :: endings, final)

end Deployment

end Carousel
