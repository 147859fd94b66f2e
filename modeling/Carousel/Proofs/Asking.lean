/-
# What a command may ask for

A command asks for little. Apart from its own cycle or its own keys it asks for nothing
that it was not told to, whatever it is answered: an execution loads and notes only its
own script, and runs scripts on its own keys. So what no such request disturbs, the
whole command does not disturb, and need not be followed through its branches.

Only answers that the server can give are considered. That is what makes the noted
digest that of the script's own body: no load gives out another one.
-/

import Carousel.Proofs.Execution
import Carousel.Proofs.Requests

namespace Carousel

namespace Program

variable {face : Interface} {α σ : Type} {serve : Server face σ}

/-- As long as the server answers as it can, in some state or other, the program makes
only requests that are allowed. -/
def Asks (serve : Server face σ) (allowed : face.Query → Prop) :
    Program face α → Prop
  | .done _ => True
  | .ask query next =>
    allowed query ∧ ∀ state answer, (serve query state).1 = .returned answer →
      Asks serve allowed (next answer)

/-- What every allowed request keeps is kept by a whole run, also by one that ends in a
panic. -/
theorem Asks.run_keeps {allowed : face.Query → Prop} {property : σ → Prop}
    (keeps : ∀ query state, allowed query → property state →
      property (serve query state).2)
    {program : Program face α} (asks : program.Asks serve allowed) {state : σ}
    (holds : property state) : property (program.run serve state).2 := by
  induction program generalizing state with
  | done result => exact holds
  | ask query next ih =>
    have kept := keeps query state asks.1 holds
    rw [run_ask]
    rcases served : serve query state with ⟨ending, after⟩
    rw [served] at kept
    cases ending with
    | returned answer =>
      apply ih answer _ kept
      exact asks.2 state answer (congrArg Prod.fst served)
    | panicked message => exact kept

end Program

namespace Deployment

/-- The requests of an execution of a script. -/
def Executing (executor : Nat) (script : Script) (keys args : List String) :
    Request → Prop
  | .lookUp other name => other = executor ∧ name = script.name
  | .remember other name digest =>
    other = executor ∧ name = script.name ∧ digest = Digest.ofBody script.body
  | .store (.load body) => body = script.body
  | .store (.eval _ given passed) => given = keys ∧ passed = args
  | _ => False

section

variable {α : Type} {executor : Nat} {script : Script} {keys args : List String}
  {allowed : Request → Prop}
  (within : ∀ request, Executing executor script keys args request → allowed request)
  {next : Except Failure Scalar → Client α}
  (asks : ∀ answer, (next answer).Asks serve allowed)

include within asks

/-- An execution makes its own requests, and then those of what follows it. -/
theorem asks_consulting :
    (consulting executor script keys args next).Asks serve allowed := by
  have noted : ∀ digest (rest : Client α), rest.Asks serve allowed →
      digest = Digest.ofBody script.body →
        (Program.ask (Request.remember executor script.name digest)
          fun _ => rest).Asks serve allowed := by
    intro digest rest follows own
    exact ⟨within _ ⟨rfl, rfl, own⟩, fun _ _ _ => follows⟩
  have rerun : ∀ digest, (rerunning keys args next digest).Asks serve allowed := by
    intro digest
    exact ⟨within _ ⟨rfl, rfl⟩, fun _ answer _ => asks answer⟩
  have reload : (reloading executor script keys args next).Asks serve allowed := by
    refine ⟨within _ rfl, fun state answer served => ?_⟩
    cases answer with
    | error failure => exact asks _
    | ok digest => exact noted digest _ (rerun digest) (eq_ofBody_of_load served).1
  have run : ∀ digest, (running executor script keys args next digest).Asks serve
      allowed := by
    intro digest
    refine ⟨within _ ⟨rfl, rfl⟩, fun state answer served => ?_⟩
    rcases answer with (reason | elapsed | unknown | message) | scalar
    · exact asks _
    · exact asks _
    · exact reload
    · exact asks _
    · exact asks _
  refine ⟨within _ ⟨rfl, rfl⟩, fun state answer served => ?_⟩
  cases answer with
  | some digest => exact run digest
  | none =>
    refine ⟨within _ rfl, fun state answer served => ?_⟩
    cases answer with
    | error failure => exact asks _
    | ok digest => exact noted digest _ (run digest) (eq_ofBody_of_load served).1

end

end Deployment

namespace Command

open Deployment (Executing)

/-- The requests that a command may make. -/
def MayAsk : Command → Deployment.Request → Prop
  | .store request, asked => asked = .store request
  | .execute executor script keys args, asked => Executing executor script keys args asked
  | .cachedDigest executor name, asked => asked = .lookUp executor name
  | .cycle _ handle .exists?, asked => asked = .store (.has handle.name)
  | .cycle _ handle (.create elements), asked =>
    asked = .store (.replace handle.name (Cycle.freshFields elements))
  | .cycle _ handle (.createIfMissing elements), asked =>
    asked = .store (.has handle.name) ∨
      asked = .store (.replace handle.name (Cycle.freshFields elements))
  | .cycle executor handle .next, asked =>
    asked = .store (.has handle.name) ∨
      Executing executor handle.script [handle.name] [] asked
  | .cycle _ handle .remove, asked => asked = .store (.delete handle.name)

/-- Creating asks for the fresh fields to be written, if it asks for anything. -/
theorem asks_create {allowed : Deployment.Request → Prop} (executor : Nat)
    (handle : Cycle) {elements : List String}
    (writes : allowed (.store (.replace handle.name (Cycle.freshFields elements)))) :
    (client (.cycle executor handle (.create elements))).Asks Deployment.serve allowed := by
  rw [client_create]
  split
  · trivial
  · exact ⟨writes, fun _ _ _ => trivial⟩

/-- A command asks for nothing but what it may ask for. -/
theorem asks_client (command : Command) :
    command.client.Asks Deployment.serve command.MayAsk := by
  cases command with
  | store request => exact ⟨rfl, fun _ _ _ => trivial⟩
  | cachedDigest executor name => exact ⟨rfl, fun _ _ _ => trivial⟩
  | execute executor script keys args =>
    rw [client, Deployment.execute_bind]
    exact Deployment.asks_consulting (fun _ => id) fun _ => trivial
  | cycle executor handle call =>
    cases call with
    | exists? =>
      rw [client_exists]
      exact ⟨rfl, fun _ _ _ => trivial⟩
    | create elements => exact asks_create executor handle rfl
    | createIfMissing elements =>
      rw [client_createIfMissing]
      refine ⟨.inl rfl, fun state answer served => ?_⟩
      rcases answer with failure | (_ | _)
      · trivial
      · exact asks_create executor handle (.inr rfl)
      · trivial
    | next =>
      rw [client_next]
      refine ⟨.inl rfl, fun state answer served => ?_⟩
      rcases answer with failure | (_ | _)
      · trivial
      · trivial
      · exact Deployment.asks_consulting (fun _ => .inr) fun _ => trivial
    | remove =>
      rw [client_remove]
      exact ⟨rfl, fun _ _ _ => trivial⟩

end Command

namespace Deployment

/-- What every request of a command keeps, the command keeps. -/
theorem perform_keeps (property : Deployment → Prop) {command : Command}
    (keeps : ∀ request deployment, command.MayAsk request → property deployment →
      property (serve request deployment).2)
    {deployment : Deployment} (holds : property deployment) :
    property (deployment.perform command).2 :=
  command.asks_client.run_keeps keeps holds

end Deployment

end Carousel
