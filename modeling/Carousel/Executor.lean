/-
# Executing scripts by digest

An executor loads a script when it first meets its name, remembers the digest
under that name, and from then on runs the script by its digest. If the store
does not know the digest any more, the executor loads the script again and runs
it once more. Whatever comes of that is the answer, as is any other failure of
the first run.

Digests are remembered by the name of the script, and not by its body.
-/

import Carousel.Store.Basic

namespace Carousel

/-- The digests that an executor remembers, by script name. -/
abbrev DigestCache := Table String String

namespace Executor

/-- What an executor asks of its memory and of the store. -/
inductive Request
  | lookUp (name : String)
  | remember (name digest : String)
  | load (body : String)
  | eval (digest : String) (keys args : List String)
  deriving DecidableEq

/-- What each request is answered with. -/
abbrev Request.Answer : Request → Type
  | .lookUp _ => Option String
  | .remember _ _ => Unit
  | .load _ => Except Failure String
  | .eval _ _ _ => Except Failure Scalar

/-- The requests of an executor as an interface. -/
abbrev interface : Interface where
  Query := Request
  Answer := Request.Answer

/-- Look up the digest of a script name. -/
def lookUp (name : String) : Program interface (Option String) :=
  .request interface (.lookUp name)

/-- Note the digest of a script name. -/
def remember (name digest : String) : Program interface Unit :=
  .request interface (.remember name digest)

/-- Load a body into the store. -/
def load (body : String) : Program interface (Except Failure String) :=
  .request interface (.load body)

/-- Run the body that is loaded under a digest. -/
def eval (digest : String) (keys args : List String) :
    Program interface (Except Failure Scalar) :=
  .request interface (.eval digest keys args)

/-- Load a script and note its digest. Only a digest that the store handed out
is noted. -/
def register (script : Script) : Program interface (Except Failure String) := do
  match ← load script.body with
  | .error failure => return .error failure
  | .ok digest =>
    remember script.name digest
    return .ok digest

/-- The digest to run a script by: the remembered one, or a fresh one. -/
def digestOf (script : Script) : Program interface (Except Failure String) := do
  match ← lookUp script.name with
  | some digest => return .ok digest
  | none => register script

/-- Register a script and run it. -/
def reload (script : Script) (keys args : List String) :
    Program interface (Except Failure Scalar) := do
  match ← register script with
  | .error failure => return .error failure
  | .ok digest => eval digest keys args

/-- Run a script on keys and arguments. -/
def execute (script : Script) (keys args : List String) :
    Program interface (Except Failure Scalar) := do
  match ← digestOf script with
  | .error failure => return .error failure
  | .ok digest =>
    match ← eval digest keys args with
    | .error (.noScript _) => reload script keys args
    | answer => return answer

end Executor

/-- Whatever can load bodies and run them by digest. -/
structure Backend (σ : Type) where
  load : (body : String) → σ → Ending (Except Failure String) × σ
  eval : (digest : String) → (keys args : List String) → σ →
    Ending (Except Failure Scalar) × σ

namespace Executor

variable {σ : Type}

/-- Serve an executor from its own memory and a backend. -/
def serve (backend : Backend σ) : Server interface (DigestCache × σ)
  | .lookUp name, (cache, state) => (.returned (cache.get? name), cache, state)
  | .remember name digest, (cache, state) =>
    (.returned (), cache.insert name digest, state)
  | .load body, (cache, state) =>
    let (ending, after) := backend.load body state
    (ending, cache, after)
  | .eval digest keys args, (cache, state) =>
    let (ending, after) := backend.eval digest keys args state
    (ending, cache, after)

end Executor

end Carousel
