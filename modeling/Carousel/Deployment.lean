/-
# Deployments

A deployment is one in-memory store and any number of executors on it. Each
executor has a number and nothing but its cache of digests; an executor that
has not cached anything yet need not be mentioned. All clients of a deployment
talk to it by the single requests defined here, whether they run alone or
between the requests of other clients.
-/

import Carousel.Cycle.Handle
import Carousel.Executor

namespace Carousel

/-- A store, and the caches of the executors on it. -/
structure Deployment where
  store : Store
  caches : Table Nat DigestCache

namespace Deployment

/-- An empty store without executors. -/
def new : Deployment where
  store := .new
  caches := .empty

/-- The single requests: those to the store, and those to the cache of one of
the executors. -/
inductive Request
  | store (request : Store.Request)
  | lookUp (executor : Nat) (name : String)
  | remember (executor : Nat) (name digest : String)

/-- What each request is answered with. -/
abbrev Request.Answer : Request → Type
  | .store request => request.Answer
  | .lookUp _ _ => Option String
  | .remember _ _ _ => Unit

/-- The requests of a deployment as an interface. -/
abbrev interface : Interface where
  Query := Request
  Answer := Request.Answer

/-- The cache of an executor, which is empty at first. -/
def cache (deployment : Deployment) (executor : Nat) : DigestCache :=
  (deployment.caches.get? executor).getD .empty

/-- Note a digest in the cache of an executor. -/
def remember (deployment : Deployment) (executor : Nat) (name digest : String) :
    Deployment :=
  { deployment with
    caches := deployment.caches.insert executor
      ((deployment.cache executor).insert name digest) }

/-- Serve one request. Only a script can panic. -/
def serve : Server interface Deployment
  | .store request, deployment =>
    let (ending, store) := Store.serve request deployment.store
    (ending, { deployment with store })
  | .lookUp executor name, deployment =>
    (.returned ((deployment.cache executor).get? name), deployment)
  | .remember executor name digest, deployment =>
    (.returned (), deployment.remember executor name digest)

/-- A client of a deployment. -/
abbrev Client (α : Type) := Program interface α

/-- Ask the store. -/
def ask (request : Store.Request) : Client request.Answer :=
  .request interface (.store request)

/-- Where the requests of an executor go. -/
def executorWire (executor : Nat) :
    (request : Executor.Request) → Client request.Answer
  | .lookUp name => .request interface (.lookUp executor name)
  | .remember name digest =>
    .request interface (.remember executor name digest)
  | .load body => ask (.load body)
  | .eval digest keys args => ask (.eval digest keys args)

/-- Run a script through an executor. -/
def execute (executor : Nat) (script : Script) (keys args : List String) :
    Client (Except Failure Scalar) :=
  (Executor.execute script keys args).through (executorWire executor)

/-- Where the requests of a cycle go if it advances through an executor. -/
def cycleWire (executor : Nat) :
    (request : Cycle.Request) → Client request.Answer
  | .has key => ask (.has key)
  | .replace key fields => ask (.replace key fields)
  | .delete key => ask (.delete key)
  | .execute script keys args => execute executor script keys args

/-- Run an operation on a cycle that advances through an executor. -/
def operate {α : Type} (executor : Nat) (operation : Cycle.Operation α) :
    Client (Except Fault α) :=
  operation.through (cycleWire executor)

end Deployment

end Carousel
