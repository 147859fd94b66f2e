/-
# A script that panics harms nobody else

Two histories are compared that are the same but for one native script. Where the one
binds a script to a body, the other binds its twin, which writes the same records and ends
in any other way: it may panic where the first one answers. Whoever runs the script sees
the difference. Nobody else does, for what is left behind is the same, after every command:
the records, the loaded scripts, and what executors remember. That is so because no
command asks for anything more after it was told how a script ended, unless it was told
that the script is unknown, which neither of the two may claim.

A panic also poisons the lock of the store, so both histories are carried out under locks,
of which any may be poisoned from the start.
-/

import Carousel.Proofs.Locks
import Carousel.Proofs.Once
import Mathlib.Data.List.Forall2

namespace Carousel

/-- Two native scripts that write the same, however they end. Neither says that it is
unknown. -/
structure NativeScript.Twins (first second : NativeScript) : Prop where
  writes_eq : ∀ records keys args,
    (first records keys args).2 = (second records keys args).2
  honest_first : first.Honest
  honest_second : second.Honest

/-- The commands are the same, or one of them binds the first of two native scripts to the
body and the other one the second. -/
inductive Command.Paired (body : String) (first second : NativeScript) :
    Command → Command → Prop
  | same (command : Command) : Paired body first second command command
  | bound : Paired body first second (.store (.bind body first)) (.store (.bind body second))

namespace Deployment

/-! ## Programs that end with the script that they run -/

/-- The request runs no script. -/
def Request.Still : Request → Prop
  | .store (.eval _ _ _) => False
  | _ => True

/-- The client asks for nothing after it has run a script, unless the script is unknown. -/
inductive Brief {α : Type} : Client α → Prop
  | done (result : α) : Brief (.done result)
  | ask {request : Request} {next : request.Answer → Client α} (still : request.Still)
    (brief : ∀ answer, Brief (next answer)) : Brief (.ask request next)
  | run {digest : String} {keys args : List String}
    {next : Except Failure Scalar → Client α}
    (brief : ∀ answer, Brief (next answer))
    (ends : ∀ answer, (∀ unknown, answer ≠ .error (.noScript unknown)) →
      ∃ result, next answer = .done result) :
    Brief (.ask (.store (.eval digest keys args)) next)

/-- An execution ends with the script that it runs, if what follows it asks for nothing. -/
theorem brief_consulting {α : Type} (executor : Nat) (script : Script)
    (keys args : List String) (result : Except Failure Scalar → α) :
    Brief (consulting executor script keys args fun answer => .done (result answer)) := by
  have rerun : ∀ digest,
      Brief (rerunning keys args (fun answer => .done (result answer)) digest) :=
    fun digest => .run (fun answer => .done _) fun answer _ => ⟨_, rfl⟩
  have reload :
      Brief (reloading executor script keys args fun answer => .done (result answer)) := by
    refine .ask trivial fun answer => ?_
    cases answer with
    | error failure => exact .done _
    | ok digest => exact .ask trivial fun _ => rerun digest
  have run : ∀ digest,
      Brief (running executor script keys args (fun answer => .done (result answer))
        digest) := by
    intro digest
    refine .run (fun answer => ?_) fun answer known => ?_
    · by_cases known : ∀ unknown, answer ≠ .error (.noScript unknown)
      · rw [afterRun_eq_next _ _ _ _ _ known]
        exact .done _
      · obtain ⟨unknown, told⟩ := not_forall_not.mp known
        rw [told]
        exact reload
    · rw [afterRun_eq_next _ _ _ _ _ known]
      exact ⟨_, rfl⟩
  refine .ask trivial fun known => ?_
  cases known with
  | some digest => exact run digest
  | none =>
    refine .ask trivial fun answer => ?_
    cases answer with
    | error failure => exact .done _
    | ok digest => exact .ask trivial fun _ => run digest

end Deployment

namespace Command

open Deployment (Brief brief_consulting)

/-- Every command ends with the script that it runs. -/
theorem brief_client (command : Command) : Brief command.client := by
  match command with
  | .store (.eval _ _ _) => exact .run (fun _ => .done _) fun _ _ => ⟨_, rfl⟩
  | .store (.has _) | .store (.replace _ _) | .store (.delete _) | .store (.read _)
  | .store (.load _) | .store (.bind _ _) | .store .flush | .store (.setOutage _)
  | .cachedDigest _ _ => exact .ask trivial fun _ => .done _
  | .execute executor script keys args =>
    rw [client, Deployment.execute_bind]
    exact brief_consulting executor script keys args _
  | .cycle executor handle call =>
    have create : ∀ elements, Brief (client (.cycle executor handle (.create elements))) := by
      intro elements
      rw [client_create]
      split
      · exact .done _
      · exact .ask trivial fun _ => .done _
    cases call with
    | exists? =>
      rw [client_exists]
      exact .ask trivial fun _ => .done _
    | create elements => exact create elements
    | createIfMissing elements =>
      rw [client_createIfMissing]
      refine .ask trivial fun answer => ?_
      rcases answer with failure | (_ | _)
      · exact .done _
      · exact create elements
      · exact .done _
    | next =>
      rw [client_next]
      refine .ask trivial fun answer => ?_
      rcases answer with failure | (_ | _)
      · exact .done _
      · exact .done _
      · exact brief_consulting executor handle.script _ _ _
    | remove =>
      rw [client_remove]
      exact .ask trivial fun _ => .done _

end Command

namespace Deployment

/-! ## Deployments that differ in one native script -/

/-- The two deployments are the same but for a native script that is bound to the digest,
which is the first of two in the one deployment and the second in the other. -/
structure Twinned (digest : String) (first second : NativeScript)
    (left right : Deployment) : Prop where
  records_eq : left.store.records = right.store.records
  loaded_eq : left.store.loaded = right.store.loaded
  outage_eq : left.store.outage = right.store.outage
  caches_eq : left.caches = right.caches
  natives : ∀ sought, left.store.natives.get? sought = right.store.natives.get? sought ∨
    sought = digest ∧ left.store.natives.get? sought = some first ∧
      right.store.natives.get? sought = some second

/-- The client applies the native script that is bound to the digest. -/
def Applies {α : Type} (digest : String) (native : NativeScript) (client : Client α)
    (deployment : Deployment) : Prop :=
  ∃ application ∈ applications client deployment,
    application.digest = digest ∧ application.native = native

variable {digest : String} {first second : NativeScript} {left right : Deployment}

namespace Twinned

variable (twinned : Twinned digest first second left right)

include twinned

theorem cache_eq (executor : Nat) : left.cache executor = right.cache executor := by
  rw [cache, cache, twinned.caches_eq]

theorem contains_eq (sought : String) :
    left.store.natives.contains sought = right.store.natives.contains sought := by
  rw [Table.contains, Table.contains]
  rcases twinned.natives sought with same | ⟨_, one, other⟩
  · rw [same]
  · rw [one, other]
    rfl

theorem has_eq (key : String) : left.store.has key = right.store.has key := by
  rw [Store.has, Store.has, twinned.outage_eq, twinned.records_eq]

theorem read_eq (key : String) : left.store.read key = right.store.read key := by
  rw [Store.read, Store.read, twinned.outage_eq, twinned.records_eq]

/-- A digest runs the same native script in both deployments, or it runs the twins. -/
theorem runnable_cases (sought : String) :
    left.store.runnable sought = right.store.runnable sought ∨
      sought = digest ∧ left.store.runnable sought = some first ∧
        right.store.runnable sought = some second := by
  rw [Store.runnable, Store.runnable, twinned.loaded_eq]
  split
  · exact twinned.natives sought
  · exact .inl rfl

theorem withRecords (records : Records) :
    Twinned digest first second (left.withRecords records) (right.withRecords records) :=
  { twinned with records_eq := rfl }

/-- Both deployments bind the native scripts that they are told to bind. -/
theorem bind {body : String} {one other : NativeScript}
    (same : one = other ∨ Digest.ofBody body = digest ∧ one = first ∧ other = second) :
    Twinned digest first second { left with store := left.store.bind body one }
      { right with store := right.store.bind body other } where
  records_eq := twinned.records_eq
  loaded_eq := twinned.loaded_eq
  outage_eq := twinned.outage_eq
  caches_eq := twinned.caches_eq
  natives := by
    intro sought
    simp only [Store.bind, Table.get?_insert]
    split
    · rename_i own
      rcases same with rfl | ⟨digested, rfl, rfl⟩
      · exact .inl rfl
      · exact .inr ⟨own.symm.trans digested, rfl, rfl⟩
    · exact twinned.natives sought

theorem withLoaded (sought : String) :
    Twinned digest first second (left.withLoaded sought) (right.withLoaded sought) :=
  { twinned with loaded_eq := congrArg (List.insert sought) twinned.loaded_eq }

theorem remember (executor : Nat) (name noted : String) :
    Twinned digest first second (left.remember executor name noted)
      (right.remember executor name noted) where
  records_eq := twinned.records_eq
  loaded_eq := twinned.loaded_eq
  outage_eq := twinned.outage_eq
  caches_eq := by
    rw [Deployment.remember, Deployment.remember, twinned.caches_eq, twinned.cache_eq]
  natives := twinned.natives

/-- A script is run alike in both deployments, unless it is the twins that are run. -/
theorem serve_eval (twins : first.Twins second) (sought : String)
    (keys args : List String) :
    Twinned digest first second
        (Deployment.serve (.store (.eval sought keys args)) left).2
        (Deployment.serve (.store (.eval sought keys args)) right).2 ∧
      ((Deployment.serve (.store (.eval sought keys args)) left).1 =
          (Deployment.serve (.store (.eval sought keys args)) right).1 ∨
        sought = digest ∧ ¬ left.store.outage = true ∧
          left.store.runnable sought = some first ∧
          right.store.runnable sought = some second) := by
  by_cases down : left.store.outage = true
  · rw [serve_eval_of_outage down, serve_eval_of_outage (twinned.outage_eq ▸ down)]
    exact ⟨twinned, .inl rfl⟩
  · have up : ¬ right.store.outage = true := twinned.outage_eq ▸ down
    rcases twinned.runnable_cases sought with same | ⟨own, one, other⟩
    · cases found : left.store.runnable sought with
      | none =>
        rw [serve_eval_of_unrunnable down found, serve_eval_of_unrunnable up (same ▸ found)]
        exact ⟨twinned, .inl rfl⟩
      | some native =>
        rw [serve_eval_of_runnable down found, serve_eval_of_runnable up (same ▸ found),
          twinned.records_eq]
        exact ⟨twinned.withRecords _, .inl rfl⟩
    · rw [serve_eval_of_runnable down one, serve_eval_of_runnable up other,
        twinned.records_eq, twins.writes_eq]
      exact ⟨twinned.withRecords _, .inr ⟨own, down, one, other⟩⟩

/-- Any other request is answered alike. -/
theorem serve_still {request : Request} (still : request.Still) :
    Twinned digest first second (Deployment.serve request left).2
        (Deployment.serve request right).2 ∧
      (Deployment.serve request left).1 = (Deployment.serve request right).1 := by
  match request with
  | .lookUp executor name =>
    rw [serve_lookUp, serve_lookUp, twinned.cache_eq]
    exact ⟨twinned, rfl⟩
  | .remember executor name noted => exact ⟨twinned.remember executor name noted, rfl⟩
  | .store (.has key) =>
    rw [serve_has, serve_has, twinned.has_eq]
    exact ⟨twinned, rfl⟩
  | .store (.read key) => exact ⟨twinned, congrArg Ending.returned (twinned.read_eq key)⟩
  | .store (.replace key fields) =>
    by_cases down : left.store.outage = true
    · rw [serve_replace_of_outage down, serve_replace_of_outage (twinned.outage_eq ▸ down)]
      exact ⟨twinned, rfl⟩
    · rw [serve_replace down, serve_replace (twinned.outage_eq ▸ down), twinned.records_eq]
      exact ⟨twinned.withRecords _, rfl⟩
  | .store (.delete key) =>
    by_cases down : left.store.outage = true
    · rw [serve_delete_of_outage down, serve_delete_of_outage (twinned.outage_eq ▸ down)]
      exact ⟨twinned, rfl⟩
    · rw [serve_delete down, serve_delete (twinned.outage_eq ▸ down), twinned.records_eq]
      exact ⟨twinned.withRecords _, rfl⟩
  | .store (.load body) =>
    by_cases down : left.store.outage = true
    · rw [serve_load_of_outage down, serve_load_of_outage (twinned.outage_eq ▸ down)]
      exact ⟨twinned, rfl⟩
    · have up : ¬ right.store.outage = true := twinned.outage_eq ▸ down
      have alike := twinned.contains_eq (Digest.ofBody body)
      by_cases bound : left.store.natives.contains (Digest.ofBody body) = true
      · rw [serve_load_of_bound down bound, serve_load_of_bound up (alike ▸ bound)]
        exact ⟨twinned.withLoaded _, rfl⟩
      · rw [serve_load_of_unbound down bound, serve_load_of_unbound up (alike ▸ bound)]
        exact ⟨twinned, rfl⟩
  | .store (.bind body native) => exact ⟨twinned.bind (.inl rfl), rfl⟩
  | .store .flush => exact ⟨{ twinned with loaded_eq := rfl }, rfl⟩
  | .store (.setOutage on) => exact ⟨{ twinned with outage_eq := rfl }, rfl⟩

end Twinned

/-! ## Clients of such deployments -/

/-- The client leaves deployments that differ in nothing else. It ends alike, unless it
applies the one native script here and the other one there. -/
def Unharmed {α : Type} (digest : String) (first second : NativeScript)
    (client : Client α) (left right : Deployment) : Prop :=
  Twinned digest first second (client.run serve left).2 (client.run serve right).2 ∧
    ((client.run serve left).1 = (client.run serve right).1 ∨
      Applies digest first client left ∧ Applies digest second client right)

/-- A client applies what it applies after its first request. -/
theorem Applies.of_next {α : Type} {request : Request} {next : request.Answer → Client α}
    {answer : request.Answer} {native : NativeScript} {deployment after : Deployment}
    (served : serve request deployment = (.returned answer, after))
    (applies : Applies digest native (next answer) after) :
    Applies digest native (.ask request next) deployment := by
  obtain ⟨application, listed, own⟩ := applies
  have counted := congrArg Prod.snd (account_of_returned served next)
  refine ⟨application, ?_, own⟩
  rw [show applications (.ask request next) deployment = _ from counted]
  exact List.mem_append_right _ listed

/-- A client applies what its first request applies. -/
theorem Applies.of_runnable {α : Type} {next : Except Failure Scalar → Client α}
    {keys args : List String} {native : NativeScript} {deployment : Deployment}
    (up : ¬ deployment.store.outage = true)
    (runnable : deployment.store.runnable digest = some native) :
    Applies digest native (.ask (.store (.eval digest keys args)) next) deployment := by
  refine ⟨⟨digest, native, deployment.store.records, keys, args⟩, ?_, rfl, rfl⟩
  rw [applications, Program.trace, List.filterMap_cons, application?, if_neg up, runnable]
  exact List.mem_cons_self

/-- If the first request of a client is answered alike, only what the client does next can
make a difference. -/
theorem Unharmed.of_next {α : Type} {request : Request} {next : request.Answer → Client α}
    (after : Twinned digest first second (serve request left).2 (serve request right).2)
    (same : (serve request left).1 = (serve request right).1)
    (rest : ∀ answer {left right}, Twinned digest first second left right →
      Unharmed digest first second (next answer) left right) :
    Unharmed digest first second (.ask request next) left right := by
  rw [Unharmed, Program.run_ask, Program.run_ask]
  rcases here : serve request left with ⟨ending, one⟩
  rcases there : serve request right with ⟨otherEnding, other⟩
  rw [here, there] at after same
  obtain rfl : ending = otherEnding := same
  cases ending with
  | panicked message => exact ⟨after, .inl rfl⟩
  | returned answer =>
    obtain ⟨final, alike⟩ := rest answer after
    exact ⟨final, alike.imp_right fun ⟨one, other⟩ => ⟨one.of_next here, other.of_next there⟩⟩

/-- A client that is over once it is answered leaves what its request leaves. -/
theorem run_ask_snd {α : Type} {request : Request} {next : request.Answer → Client α}
    {deployment : Deployment}
    (ends : ∀ answer, (serve request deployment).1 = .returned answer →
      ∃ result, next answer = .done result) :
    ((Program.ask request next).run serve deployment).2 = (serve request deployment).2 := by
  rw [Program.run_ask]
  rcases served : serve request deployment with ⟨ending, after⟩
  cases ending with
  | panicked message => rfl
  | returned answer =>
    obtain ⟨result, finished⟩ := ends answer (congrArg Prod.fst served)
    show (Program.run serve (next answer) after).2 = after
    rw [finished]
    rfl

/-- A client is over once a native script has been applied that does not claim to be
unknown. -/
theorem run_eval_snd {α : Type} {keys args : List String}
    {next : Except Failure Scalar → Client α}
    (ends : ∀ answer, (∀ unknown, answer ≠ .error (.noScript unknown)) →
      ∃ result, next answer = .done result)
    {native : NativeScript} (honest : native.Honest) {deployment : Deployment}
    (up : ¬ deployment.store.outage = true)
    (runnable : deployment.store.runnable digest = some native) :
    ((.ask (.store (.eval digest keys args)) next : Client α).run serve deployment).2 =
      (serve (.store (.eval digest keys args)) deployment).2 := by
  refine run_ask_snd fun answer answered => ends answer fun unknown claims => ?_
  rw [serve_eval_of_runnable up runnable, claims] at answered
  exact honest _ _ _ unknown answered

/-- Whatever a client does, it leaves deployments that differ in nothing but the twins. The
induction is on what is left of the client, which is nothing once the twins have been
applied. -/
theorem Twinned.unharmed {α : Type} {client : Client α} (brief : Brief client)
    (twins : first.Twins second) (twinned : Twinned digest first second left right) :
    Unharmed digest first second client left right := by
  induction brief generalizing left right with
  | done result => exact ⟨twinned, .inl rfl⟩
  | ask still brief ih =>
    obtain ⟨after, same⟩ := twinned.serve_still still
    exact .of_next after same ih
  | @run sought keys args next brief ends ih =>
    obtain ⟨after, same | ⟨rfl, up, one, other⟩⟩ := twinned.serve_eval twins sought keys args
    · exact .of_next after same ih
    · have stillUp : ¬ right.store.outage = true := twinned.outage_eq ▸ up
      refine ⟨?_, .inr ⟨.of_runnable up one, .of_runnable stillUp other⟩⟩
      rw [run_eval_snd ends twins.honest_first up one,
        run_eval_snd ends twins.honest_second stillUp other]
      exact after

/-! ## Histories -/

/-- A command of a history is carried out on what the ones before it left. -/
theorem getElem?_performAll (commands : List Command) (deployment : Deployment)
    (index : Nat) :
    (deployment.performAll commands).1[index]? =
      commands[index]?.map fun command =>
        ((deployment.performAll (commands.take index)).2.perform command).1 := by
  induction commands generalizing deployment index with
  | nil => rfl
  | cons command rest ih =>
    cases index with
    | zero => rfl
    | succ index => exact ih (deployment.perform command).2 index

section

variable {body : String} (twins : first.Twins second)

include twins

theorem Twinned.perform (twinned : Twinned (Digest.ofBody body) first second left right)
    {command counterpart : Command} (paired : command.Paired body first second counterpart) :
    Twinned (Digest.ofBody body) first second (left.perform command).2
        (right.perform counterpart).2 ∧
      ((left.perform command).1 = (right.perform counterpart).1 ∨
        Applies (Digest.ofBody body) first command.client left ∧
          Applies (Digest.ofBody body) second command.client right) := by
  cases paired with
  | same => exact twinned.unharmed command.brief_client twins
  | bound => exact ⟨twinned.bind (.inr ⟨rfl, rfl, rfl⟩), .inl rfl⟩

theorem Twinned.performAll
    (twinned : Twinned (Digest.ofBody body) first second left right)
    {commands counterparts : List Command}
    (paired : List.Forall₂ (Command.Paired body first second) commands counterparts) :
    Twinned (Digest.ofBody body) first second (left.performAll commands).2
      (right.performAll counterparts).2 := by
  induction paired generalizing left right with
  | nil => exact twinned
  | cons pair _ ih => exact ih (twinned.perform twins pair).1

end

end Deployment

namespace Guarded

open Deployment (Applies Twinned)

/-- Two guarded deployments hold the same, but for a native script that is bound to the
digest: the first of two in the one deployment, and the second in the other. -/
structure AlikeBut (digest : String) (first second : NativeScript) (one other : Guarded) :
    Prop where
  records_eq : one.store.state.records = other.store.state.records
  loaded_eq : one.store.state.loaded = other.store.state.loaded
  outage_eq : one.store.state.outage = other.store.state.outage
  memory_eq : ∀ executor, (one.memories executor).state = (other.memories executor).state
  natives : ∀ sought,
    one.store.state.natives.get? sought = other.store.state.natives.get? sought ∨
      sought = digest ∧ one.store.state.natives.get? sought = some first ∧
        other.store.state.natives.get? sought = some second

theorem alikeBut_of_guards {digest : String} {first second : NativeScript}
    {left right : Deployment} {one other : Guarded} (guardsLeft : one.Guards left)
    (guardsRight : other.Guards right) (twinned : Twinned digest first second left right) :
    AlikeBut digest first second one other := by
  refine ⟨?_, ?_, ?_, fun executor => ?_, ?_⟩
  · rw [guardsLeft.store_eq, guardsRight.store_eq, twinned.records_eq]
  · rw [guardsLeft.store_eq, guardsRight.store_eq, twinned.loaded_eq]
  · rw [guardsLeft.store_eq, guardsRight.store_eq, twinned.outage_eq]
  · rw [guardsLeft.memory_eq, guardsRight.memory_eq, twinned.cache_eq]
  · rw [guardsLeft.store_eq, guardsRight.store_eq]
    exact twinned.natives

/-- Nobody but who runs the script can tell two histories apart that bind twins to a body,
whatever locks are poisoned. -/
structure Harmless (body : String) (first second : NativeScript)
    (commands counterparts : List Command) (start : Deployment) (one other : Guarded) :
    Prop where
  /-- After every command both histories have left the same. -/
  alike : ∀ count,
    AlikeBut (Digest.ofBody body) first second (one.performAll (commands.take count)).2
      (other.performAll (counterparts.take count)).2
  /-- Every command ends alike, but for those that run the script. -/
  results : ∀ (index : Nat) (command : Command), commands[index]? = some command →
    (one.performAll commands).1[index]? = (other.performAll counterparts).1[index]? ∨
      Applies (Digest.ofBody body) first command.client
          (start.performAll (commands.take index)).2 ∧
        Applies (Digest.ofBody body) second command.client
          (start.performAll (counterparts.take index)).2
  /-- No command ends otherwise than if there were no locks to be poisoned. -/
  unlocked : (one.performAll commands).1 = (start.performAll commands).1 ∧
    (other.performAll counterparts).1 = (start.performAll counterparts).1

/-- **A script that panics harms nobody else.** -/
theorem harmless_of_twins {body : String} {first second : NativeScript}
    (twins : first.Twins second) {commands counterparts : List Command}
    (paired : List.Forall₂ (Command.Paired body first second) commands counterparts)
    (start : Deployment) (onePoisoned otherPoisoned : Bool)
    (oneSuspect otherSuspect : Nat → Bool) :
    Harmless body first second commands counterparts start
      (around start onePoisoned oneSuspect) (around start otherPoisoned otherSuspect) := by
  have guardsOne := guards_around start onePoisoned oneSuspect
  have guardsOther := guards_around start otherPoisoned otherSuspect
  have same : Twinned (Digest.ofBody body) first second start start :=
    ⟨rfl, rfl, rfl, rfl, fun _ => .inl rfl⟩
  have twinned : ∀ count,
      Twinned (Digest.ofBody body) first second (start.performAll (commands.take count)).2
        (start.performAll (counterparts.take count)).2 :=
    fun count => same.performAll twins (List.forall₂_take count paired)
  constructor
  · intro count
    exact alikeBut_of_guards (guardsOne.performAll _).2 (guardsOther.performAll _).2
      (twinned count)
  · intro index command listed
    rw [(guardsOne.performAll commands).1, (guardsOther.performAll counterparts).1,
      Deployment.getElem?_performAll, Deployment.getElem?_performAll]
    obtain ⟨inside, rfl⟩ := List.getElem?_eq_some_iff.mp listed
    have insideToo : index < counterparts.length := paired.length_eq ▸ inside
    rw [listed, List.getElem?_eq_getElem insideToo]
    exact ((twinned index).perform twins (paired.get inside insideToo)).2.imp_left
      (congrArg some)
  · exact ⟨(guardsOne.performAll commands).1, (guardsOther.performAll counterparts).1⟩

/-- A script that does as `put` claims to be unknown only if that is how it is to end. -/
theorem honest_putThen {ending : Ending (Except Failure Scalar)}
    (known : ∀ digest, ending ≠ .returned (.error (.noScript digest))) :
    (Samples.putThen ending).Honest := by
  intro records keys args digest
  rw [Samples.putThen]
  split
  · exact known digest
  · unfold Samples.put
    split <;> simp

/-- Scripts that do as `put` and then end each in its way are twins. -/
theorem twins_putThen {ending other : Ending (Except Failure Scalar)}
    (known : ∀ digest, ending ≠ .returned (.error (.noScript digest)))
    (otherKnown : ∀ digest, other ≠ .returned (.error (.noScript digest))) :
    (Samples.putThen ending).Twins (Samples.putThen other) where
  writes_eq records keys args := by rw [Samples.snd_putThen, Samples.snd_putThen]
  honest_first := honest_putThen known
  honest_second := honest_putThen otherKnown

/-- A bell is rung, unloaded, and rung once more, while others go on with their work. -/
def ringing (bell : NativeScript) : List Command :=
  [.store (.bind "toll" bell), .execute 0 ⟨"bell", "toll"⟩ ["rope"] ["pulls", "1"],
    .store .flush, .execute 0 ⟨"bell", "toll"⟩ ["rope"] ["pulls", "2"],
    .store (.bind "tally" Samples.count), .execute 0 ⟨"tally", "tally"⟩ [] [],
    .cycle 1 ⟨"ringers", .bundled⟩ (.createIfMissing ["ann", "bob"]),
    .store (.read "rope"), .cachedDigest 0 "bell"]

/-- The bell that breaks whenever it is rung is the twin of one that does not. It leaves
the lock of the store poisoned, and the records are counted all the same. -/
theorem harmless_of_twins_bell :
    let sound := Samples.putThen (.returned (.ok (.int 7)))
    let broken := Samples.putThen (.panicked "the bell broke")
    let fresh := around .new false fun _ => false
    sound.Twins broken ∧
      List.Forall₂ (Command.Paired "toll" sound broken) (ringing sound) (ringing broken) ∧
      Harmless "toll" sound broken (ringing sound) (ringing broken) .new fresh fresh ∧
      (fresh.performAll (ringing broken)).2.store.poisoned = true ∧
      (fresh.performAll (ringing broken)).1[3]? = some (.panicked "the bell broke") ∧
      (fresh.performAll (ringing broken)).1[5]? =
        some (.returned (.ok (.scalar (.int 1)))) := by
  intro sound broken fresh
  have twins : sound.Twins broken := twins_putThen (by simp) (by simp)
  have paired :
      List.Forall₂ (Command.Paired "toll" sound broken) (ringing sound) (ringing broken) :=
    .cons .bound (List.forall₂_same.mpr fun command _ => .same command)
  exact ⟨twins, paired, harmless_of_twins twins paired .new false false _ _,
    by decide +kernel⟩

end Guarded

end Carousel
