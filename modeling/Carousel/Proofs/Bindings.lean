/-
# What a deployment can be relied on for

A store unloads scripts, but it never forgets that a native counterpart was bound
to a digest. So, in whatever order the requests of any clients are served, a digest
that is loaded is bound, and a digest that an executor remembers is bound and is that
of a body which a client ran under that name. Every native script that is bound can be
traced to the command that bound it.

What executors remember rests on the clients. They note only digests that a load has
given them, which is stated for a client's whole program: whatever it is answered, each
digest that it notes was given before, for a script that it may run. Which scripts are
loaded at the moment says nothing about what executors remember.
-/

import Carousel.Proofs.Execution
import Carousel.Proofs.Requests
import Carousel.Proofs.Schedules

namespace Carousel

/-- The script that a command runs, and the executor that it runs it through. -/
def Command.script? : Command → Option (Nat × Script)
  | .execute executor script _ _ => some (executor, script)
  | .cycle executor handle .next => some (executor, handle.script)
  | _ => none

namespace Deployment

/-- What clients may do on a deployment: the native scripts that they may bind, and
the scripts that they may run through an executor. -/
structure Remit where
  binds : NativeScript → Prop
  runs : Nat → Script → Prop

/-- One remit allows no more than another one. -/
structure Remit.Within (remit wider : Remit) : Prop where
  binds : ∀ native, remit.binds native → wider.binds native
  runs : ∀ executor script, remit.runs executor script → wider.runs executor script

/-- A native counterpart is bound to the digest. -/
def Bound (deployment : Deployment) (digest : String) : Prop :=
  deployment.store.natives.contains digest = true

/-- The digest is that of the body, and it is bound. -/
def Knows (deployment : Deployment) (body digest : String) : Prop :=
  digest = Digest.ofBody body ∧ deployment.Bound digest

/-- What is loaded, what is bound and what executors remember is there for a reason. -/
structure Wired (remit : Remit) (deployment : Deployment) : Prop where
  loaded : ∀ digest ∈ deployment.store.loaded, deployment.Bound digest
  bound : ∀ digest native,
    deployment.store.natives.get? digest = some native → remit.binds native
  cached : ∀ executor name digest,
    (deployment.cache executor).get? name = some digest →
      ∃ body, remit.runs executor ⟨name, body⟩ ∧ deployment.Knows body digest

/-- The request notes a digest only if it is known for a script that may be run, and
binds only a native script that may be bound. -/
def Request.Careful (remit : Remit) (known : String → String → Prop) : Request → Prop
  | .remember executor name digest =>
    ∃ body, remit.runs executor ⟨name, body⟩ ∧ known body digest
  | .store (.bind _ native) => remit.binds native
  | _ => True

/-- The answer to a request gives the digest for the body. -/
def Request.Gives : (request : Request) → request.Answer → String → String → Prop
  | .store (.load loaded), .ok given, body, digest => body = loaded ∧ digest = given
  | _, _, _, _ => False

/-- Whatever it is answered, the client notes only digests that are known already
or that it is given before, and does nothing else that it may not do. -/
def Careful {α : Type} (remit : Remit) : Client α → (String → String → Prop) → Prop
  | .done _, _ => True
  | .ask request next, known =>
    request.Careful remit known ∧
      ∀ answer, Careful remit (next answer) fun body digest =>
        known body digest ∨ request.Gives answer body digest

section

variable {remit wider : Remit} (within : remit.Within wider)
  {known more : String → String → Prop}
  (adds : ∀ body digest, known body digest → more body digest)

include within adds

theorem Request.Careful.mono {request : Request} (careful : request.Careful remit known) :
    request.Careful wider more := by
  match request with
  | .remember executor name digest =>
    obtain ⟨body, runs, given⟩ := careful
    exact ⟨body, within.runs _ _ runs, adds _ _ given⟩
  | .store (.bind _ native) => exact within.binds native careful
  | .store (.has _) | .store (.replace _ _) | .store (.delete _) | .store (.read _)
  | .store (.eval _ _ _) | .store (.load _) | .store .flush | .store (.setOutage _)
  | .lookUp _ _ => trivial

theorem Careful.mono {α : Type} {client : Client α} (careful : Careful remit client known) :
    Careful wider client more := by
  induction client generalizing known more with
  | done result => trivial
  | ask request next ih =>
    constructor
    · exact careful.1.mono within adds
    · intro answer
      apply ih answer _ (careful.2 answer)
      intro body digest
      exact Or.imp_left (adds body digest)

end

/-! ## What serving a request keeps -/

variable {deployment : Deployment} {remit : Remit}

/-- No request makes a store forget what is bound. -/
theorem Bound.serve {digest : String} (bound : deployment.Bound digest)
    (request : Request) : (serve request deployment).2.Bound digest := by
  cases request with
  | lookUp executor name => exact bound
  | remember executor name noted => exact bound
  | store request => exact Store.contains_natives_serve bound request

theorem Knows.serve {body digest : String} (knows : deployment.Knows body digest)
    (request : Request) : (serve request deployment).2.Knows body digest :=
  ⟨knows.1, knows.2.serve request⟩

/-- A digest that a load gives is that of the body, and it is bound. -/
theorem knows_of_gives {request : Request} {answer : request.Answer}
    (served : (serve request deployment).1 = .returned answer) {body digest : String}
    (gives : request.Gives answer body digest) :
    (serve request deployment).2.Knows body digest := by
  apply Knows.serve
  match request with
  | .store (.load loaded) =>
    cases answer with
    | error failure => exact gives.elim
    | ok given =>
      obtain ⟨rfl, rfl⟩ := gives
      obtain ⟨rfl, bound⟩ := eq_ofBody_of_load served
      exact ⟨rfl, bound⟩
  | .store (.has _) | .store (.replace _ _) | .store (.delete _) | .store (.read _)
  | .store (.eval _ _ _) | .store (.bind _ _) | .store .flush | .store (.setOutage _)
  | .lookUp _ _ | .remember _ _ _ => exact gives.elim

theorem Wired.serve (wired : deployment.Wired remit) {request : Request}
    (careful : request.Careful remit deployment.Knows) :
    (serve request deployment).2.Wired remit where
  loaded := by
    intro digest listed
    apply Bound.serve
    cases request with
    | lookUp executor name => exact wired.loaded digest listed
    | remember executor name noted => exact wired.loaded digest listed
    | store request =>
      rcases Store.mem_loaded_serve listed with before | bound
      · exact wired.loaded digest before
      · exact bound
  bound := by
    intro digest native found
    rcases bound_or_binds found with before | ⟨body, rfl, rfl⟩
    · exact wired.bound digest native before
    · exact careful
  cached := by
    intro executor name digest known
    have kept : (∃ body, remit.runs executor ⟨name, body⟩ ∧ deployment.Knows body digest) →
        ∃ body, remit.runs executor ⟨name, body⟩ ∧
          (Deployment.serve request deployment).2.Knows body digest := by
      rintro ⟨body, runs, knows⟩
      exact ⟨body, runs, knows.serve request⟩
    apply kept
    cases request with
    | lookUp other sought => exact wired.cached executor name digest known
    | store request => exact wired.cached executor name digest known
    | remember other named made =>
      simp only [Deployment.serve, get?_cache_remember] at known
      split at known
      · rename_i same
        obtain ⟨rfl, rfl⟩ := same
        cases known
        exact careful
      · exact wired.cached executor name digest known

/-! ## Clients note what they are given -/

section

variable {α : Type} (executor : Nat) (script : Script) (keys args : List String)
  {next : Except Failure Scalar → Client α}

/-- A client that runs a script is careful if it may run it and is careful after that. -/
theorem careful_consulting (runs : remit.runs executor script)
    (careful : ∀ answer, Careful remit (next answer) fun _ _ => False)
    (known : String → String → Prop) :
    Careful remit (consulting executor script keys args next) known := by
  have same : remit.Within remit := ⟨fun _ => id, fun _ _ => id⟩
  have after : ∀ answer more, Careful remit (next answer) more := by
    intro answer more
    apply (careful answer).mono same
    exact fun _ _ => False.elim
  have reloading : ∀ more,
      Careful remit (reloading executor script keys args next) more := by
    intro more
    refine ⟨trivial, fun answer => ?_⟩
    cases answer with
    | error failure => exact after _ _
    | ok digest =>
      -- The digest that is noted is the one that the load has given.
      have noted : ∃ body, remit.runs executor ⟨script.name, body⟩ ∧
          (more body digest ∨ body = script.body ∧ digest = digest) :=
        ⟨script.body, runs, .inr ⟨rfl, rfl⟩⟩
      exact ⟨noted, fun _ => ⟨trivial, fun answer => after _ _⟩⟩
  have running : ∀ digest more,
      Careful remit (running executor script keys args next digest) more := by
    intro digest more
    refine ⟨trivial, fun answer => ?_⟩
    rcases answer with (reason | elapsed | unknown | message) | scalar
    · exact after _ _
    · exact after _ _
    · exact reloading _
    · exact after _ _
    · exact after _ _
  refine ⟨trivial, fun answer => ?_⟩
  cases answer with
  | some digest => exact running _ _
  | none =>
    refine ⟨trivial, fun answer => ?_⟩
    cases answer with
    | error failure => exact after _ _
    | ok digest =>
      exact ⟨⟨script.body, runs, .inr ⟨rfl, rfl⟩⟩, fun _ => running _ _⟩

end

/-- What a command may do: bind a native script if it is a request to do that, and run
its script. -/
def Remit.ofCommand (command : Command) : Remit where
  binds native := ∃ body, command = .store (.bind body native)
  runs executor script := command.script? = some (executor, script)

theorem careful_client (command : Command) :
    Careful (.ofCommand command) command.client fun _ _ => False := by
  cases command with
  | store request =>
    refine ⟨?_, fun _ => trivial⟩
    cases request with
    | bind body native => exact ⟨body, rfl⟩
    | _ => trivial
  | cachedDigest executor name => exact ⟨trivial, fun _ => trivial⟩
  | execute executor script keys args =>
    rw [Command.client, execute_bind]
    apply careful_consulting
    · rfl
    · intro answer
      trivial
  | cycle executor handle call =>
    cases call with
    | exists? =>
      rw [Command.client_exists]
      exact ⟨trivial, fun _ => trivial⟩
    | create elements =>
      rw [Command.client_create]
      split
      · trivial
      · exact ⟨trivial, fun _ => trivial⟩
    | createIfMissing elements =>
      rw [Command.client_createIfMissing]
      refine ⟨trivial, fun answer => ?_⟩
      rcases answer with failure | (_ | _)
      · trivial
      · simp only [Command.client_create]
        split
        · trivial
        · exact ⟨trivial, fun _ => trivial⟩
      · trivial
    | next =>
      rw [Command.client_next]
      refine ⟨trivial, fun answer => ?_⟩
      rcases answer with failure | (_ | _)
      · trivial
      · trivial
      · apply careful_consulting
        · rfl
        · intro answer
          trivial
    | remove =>
      rw [Command.client_remove]
      exact ⟨trivial, fun _ => trivial⟩

/-! ## Any clients, in any order -/

/-- The deployment is wired, and the clients at work on it are careful about it. -/
structure Guarded {α : Type} (remit : Remit) (pool : Pool interface α Deployment) :
    Prop where
  wired : pool.state.Wired remit
  careful : ∀ program, .returned program ∈ pool.clients →
    Careful remit program pool.state.Knows

theorem Guarded.step {α : Type} {pool : Pool interface α Deployment}
    (guarded : Guarded remit pool) (index : Nat) :
    Guarded remit (pool.step Deployment.serve index) := by
  have same : remit.Within remit := ⟨fun _ => id, fun _ _ => id⟩
  rcases pool.step_cases Deployment.serve index with idle | ⟨request, next, found, stepped⟩
  · rw [idle]
    exact guarded
  · have careful := guarded.careful _ (List.mem_of_getElem? found)
    rw [stepped]
    constructor
    · exact guarded.wired.serve careful.1
    · intro program listed
      rcases List.mem_or_eq_of_mem_set listed with old | advanced
      · apply (guarded.careful program old).mono same
        intro body digest knows
        exact knows.serve request
      · rcases served : (Deployment.serve request pool.state).1 with answer | message
        · rw [served] at advanced
          cases advanced
          apply (careful.2 answer).mono same
          rintro body digest (knows | gives)
          · exact knows.serve request
          · exact knows_of_gives served gives
        · rw [served] at advanced
          cases advanced

/-- The deployment to which some commands lead from a new one if their requests are
served in the order of a schedule. -/
def reached (commands : List Command) (schedule : List Nat) : Deployment :=
  (Pool.run serve
    ⟨commands.map fun command => .returned command.client, .new⟩ schedule).state

/-- What a history accounts for: the bundled script's native counterpart is bound from
the start, and every command may do what is its business. -/
def Remit.ofHistory (commands : List Command) : Remit where
  binds native := native = Cycle.advance ∨ ∃ body, .store (.bind body native) ∈ commands
  runs executor script := ∃ command ∈ commands, command.script? = some (executor, script)

theorem within_ofHistory {commands : List Command} {command : Command}
    (listed : command ∈ commands) : (Remit.ofCommand command).Within (.ofHistory commands) where
  binds := by
    rintro native ⟨body, rfl⟩
    exact .inr ⟨body, listed⟩
  runs := by
    intro executor script same
    exact ⟨command, listed, same⟩

theorem wired_new (commands : List Command) : new.Wired (.ofHistory commands) where
  loaded := by
    intro digest listed
    cases listed
  bound := by
    intro digest native found
    simp only [new, Store.new, Table.get?_insert] at found
    split at found
    · cases found
      exact .inl rfl
    · cases found
  cached := by
    intro executor name digest known
    cases known

/-- Whatever any clients ask of a deployment, in any order, it stays wired. -/
theorem wired_reached (commands : List Command) (schedule : List Nat) :
    (reached commands schedule).Wired (.ofHistory commands) := by
  have start : Guarded (.ofHistory commands)
      ⟨commands.map fun command => .returned command.client, .new⟩ := by
    constructor
    · exact wired_new commands
    · intro program listed
      obtain ⟨command, member, same⟩ := List.mem_map.mp listed
      cases same
      apply (careful_client command).mono (within_ofHistory member)
      exact fun _ _ => False.elim
  have keeps : ∀ (pool : Pool interface Outcome Deployment) index,
      Guarded (.ofHistory commands) pool →
        Guarded (.ofHistory commands) (pool.step serve index) :=
    fun _ index guarded => guarded.step index
  exact (Pool.run_keeps serve keeps start schedule).wired

end Deployment

end Carousel
