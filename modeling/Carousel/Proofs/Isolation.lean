/-
# Cycles do not disturb each other

All cycles of a deployment share one table of records, one list of loaded scripts and
the memories of executors. The commands on one cycle still tell nothing about what is
done with others: what they answer is decided by the cycle's own record and by whether
there is an outage, so that any of the commands elsewhere can be left out of a history
and the cycle never shows it. Commands elsewhere may run foreign scripts, which may
fail and panic, as long as these write only under their own keys, are not bound in
place of the bundled script, and do not go by its name.

Two deployments are compared that may differ in everything but the one record. A
command elsewhere can be carried out on one of the two alone. Commands on the cycle
are carried out on both, and answer the same. Digests are not compared with bodies: it
is asked of a foreign body that its digest is not that of the bundled one.
-/

import Carousel.Proofs.Outages
import Carousel.Store.Samples

namespace Carousel

/-- A native script leaves records alone that are not under its keys. -/
def NativeScript.Confined (native : NativeScript) : Prop :=
  ∀ records keys args name, name ∉ keys →
    (native records keys args).2.get? name = records.get? name

/-- The script is the bundled one, or goes by another name. -/
def Script.Unmistakable (script : Script) : Prop :=
  script = .bundled ∨ script.name ≠ bundledName

/-- What the native script of cycles does with a key is decided by the record there. -/
theorem Cycle.advance_congr {first second : Records} {key : String}
    (same : first.get? key = second.get? key) (args : List String) :
    (advance first [key] args).1 = (advance second [key] args).1 ∧
      (advance first [key] args).2.get? key = (advance second [key] args).2.get? key := by
  rw [advance, advance]
  cases held : second.get? key with
  | none =>
    simp only [same, held, and_self]
  | some record =>
    simp only [same.trans held]
    rcases advanceRecord key record with (failure | ⟨element, moved⟩) | message
    · exact ⟨rfl, same⟩
    · simp only [Table.get?_insert, if_true, and_self]
    · exact ⟨rfl, same⟩

namespace Command

/-- Whether a command is about the cycle under the name: a call on it, a run of the
bundled script on it, or a request for its record. -/
def concerns (name : String) : Command → Bool
  | .store (.has key) => key == name
  | .store (.read key) => key == name
  | .store (.replace key _) => key == name
  | .store (.delete key) => key == name
  | .execute _ script keys _ => script == .bundled && keys == [name]
  | .cycle _ handle _ => handle == ⟨name, .bundled⟩
  | _ => false

/-- The command is about something else than the cycle under the name, and keeps to
what users of a shared deployment may do. -/
def Elsewhere (name : String) : Command → Prop
  | .store (.has key) => key ≠ name
  | .store (.read key) => key ≠ name
  | .store (.replace key _) => key ≠ name
  | .store (.delete key) => key ≠ name
  | .store (.load _) => True
  | .store (.eval _ keys _) => name ∉ keys
  | .store (.bind body native) =>
    Digest.ofBody body ≠ Script.bundledDigest ∧ native.Confined
  | .store .flush => True
  | .store (.setOutage _) => False
  | .execute _ script keys _ => script.Unmistakable ∧ name ∉ keys
  | .cachedDigest _ _ => True
  | .cycle _ handle _ => handle.script.Unmistakable ∧ handle.name ≠ name

/-- What a history may hold: commands on the cycle under the name, commands elsewhere,
and switches of the outage. -/
def Allowed (name : String) (command : Command) : Prop :=
  command.concerns name = true ∨ command.Elsewhere name ∨
    ∃ on, command = .store (.setOutage on)

/-- No command is about a cycle and about something else. -/
theorem Elsewhere.concerns_eq_false {name : String} {command : Command}
    (elsewhere : command.Elsewhere name) : command.concerns name = false := by
  match command with
  | .store (.has _) | .store (.read _) | .store (.replace _ _) | .store (.delete _) =>
    exact beq_false_of_ne elsewhere
  | .store (.load _) | .store (.eval _ _ _) | .store (.bind _ _) | .store .flush
  | .cachedDigest _ _ => rfl
  | .execute _ script keys _ =>
    rw [concerns, Bool.and_eq_false_iff]
    right
    apply beq_false_of_ne
    rintro rfl
    exact elsewhere.2 (List.mem_singleton_self name)
  | .cycle _ handle _ =>
    apply beq_false_of_ne
    rintro rfl
    exact elsewhere.2 rfl

end Command

namespace Deployment

/-! ## Deployments that are shared -/

/-- The deployment is sound, and every native script that is bound keeps to its keys. -/
structure Shared (deployment : Deployment) : Prop where
  sound : deployment.Sound
  confined : ∀ digest native,
    deployment.store.natives.get? digest = some native → native.Confined

/-- Requests that keep a deployment shared: what they bind keeps to its keys and does
not stand in for the bundled script, and what they note is not mistaken for it. -/
def Request.Discreet : Request → Prop
  | .store (.bind body native) =>
    Digest.ofBody body ≠ Script.bundledDigest ∧ native.Confined
  | .remember _ name digest =>
    name = Script.bundledName → digest = Script.bundledDigest
  | _ => True

theorem shared_new : new.Shared where
  sound := sound_holding .empty
  confined := by
    intro digest native bound
    replace bound :
        (Table.empty.insert Script.bundledDigest Cycle.advance).get? digest =
          some native := bound
    rw [Table.get?_insert] at bound
    split at bound
    · cases bound
      intro records keys args name apart
      exact Cycle.get?_advance_of_not_mem apart args
    · cases bound

theorem Shared.serve {deployment : Deployment} (shared : deployment.Shared)
    {request : Request} (discreet : request.Discreet) :
    (serve request deployment).2.Shared where
  sound := by
    apply shared.sound.serve
    match request with
    | .store (.bind _ _) => exact discreet.1
    | .remember _ _ _ => exact discreet
    | .store (.has _) | .store (.replace _ _) | .store (.delete _) | .store (.read _)
    | .store (.load _) | .store (.eval _ _ _) | .store .flush | .store (.setOutage _)
    | .lookUp _ _ => trivial
  confined := by
    intro digest native bound
    rcases bound_or_binds bound with before | ⟨body, rfl, rfl⟩
    · exact shared.confined digest native before
    · exact discreet.2

/-! ## Deployments that are alike to a cycle -/

/-- Two shared deployments are alike to a cycle if they hold the same record for it, and
both are out of service or neither is. -/
structure Alike (name : String) (first second : Deployment) : Prop where
  left : first.Shared
  right : second.Shared
  outage_eq : first.store.outage = second.store.outage
  record_eq : first.store.records.get? name = second.store.records.get? name

variable {name : String} {first second : Deployment}

theorem Alike.symm (alike : Alike name first second) : Alike name second first :=
  ⟨alike.right, alike.left, alike.outage_eq.symm, alike.record_eq.symm⟩

/-! ### Commands elsewhere -/

/-- The request neither writes the record under the name nor switches the outage, and
keeps a deployment shared. -/
def Request.Elsewhere (name : String) : Request → Prop
  | .store (.replace key _) => key ≠ name
  | .store (.delete key) => key ≠ name
  | .store (.eval _ keys _) => name ∉ keys
  | .store (.setOutage _) => False
  | request => request.Discreet

/-- A request elsewhere can be served on one of two deployments alone. -/
theorem Alike.serve_left (alike : Alike name first second) {request : Request}
    (elsewhere : request.Elsewhere name) :
    Alike name (serve request first).2 second where
  left := by
    apply alike.left.serve
    match request with
    | .store (.replace _ _) | .store (.delete _) | .store (.eval _ _ _)
    | .store (.setOutage _) => trivial
    | .store (.bind _ _) | .remember _ _ _ => exact elsewhere
    | .store (.has _) | .store (.read _) | .store (.load _) | .store .flush
    | .lookUp _ _ => trivial
  right := alike.right
  outage_eq := by
    rw [← alike.outage_eq, outage_serve]
    split
    · exact elsewhere.elim
    · rfl
  record_eq := by
    rw [← alike.record_eq]
    apply get?_serve_of_misses
    match request with
    | .store (.replace _ _) | .store (.delete _) => exact elsewhere
    | .store (.eval _ keys args) =>
      intro native runnable
      have bound := (Store.runnable_eq_some_iff.mp runnable).2
      exact alike.left.confined _ native bound _ keys args name elsewhere
    | .store (.has _) | .store (.read _) | .store (.load _) | .store (.bind _ _)
    | .store .flush | .store (.setOutage _) | .lookUp _ _ | .remember _ _ _ => trivial

/-- An execution elsewhere makes only requests elsewhere. -/
theorem Executing.elsewhere {executor : Nat} {script : Script} {keys args : List String}
    (unmistakable : script.Unmistakable) (apart : name ∉ keys) {request : Request}
    (asked : Executing executor script keys args request) : request.Elsewhere name := by
  match request with
  | .lookUp _ _ | .store (.load _) => trivial
  | .remember _ _ _ =>
    obtain ⟨_, rfl, rfl⟩ := asked
    intro named
    rcases unmistakable with rfl | other
    · rfl
    · exact absurd named other
  | .store (.eval _ _ _) =>
    obtain ⟨rfl, _⟩ := asked
    exact apart
  | .store (.has _) | .store (.replace _ _) | .store (.delete _) | .store (.read _)
  | .store (.bind _ _) | .store .flush | .store (.setOutage _) => exact asked.elim

/-- A command elsewhere makes only requests elsewhere. -/
theorem elsewhere_of_mayAsk {command : Command} (elsewhere : command.Elsewhere name)
    {request : Request} (asked : command.MayAsk request) : request.Elsewhere name := by
  match command with
  | .store (.has _) | .store (.read _) | .store (.load _) | .store .flush
  | .cachedDigest _ _ =>
    cases asked
    trivial
  | .store (.replace _ _) | .store (.delete _) | .store (.eval _ _ _)
  | .store (.bind _ _) | .store (.setOutage _) =>
    cases asked
    exact elsewhere
  | .execute _ _ _ _ => exact asked.elsewhere elsewhere.1 elsewhere.2
  | .cycle _ handle .exists? =>
    cases asked
    trivial
  | .cycle _ handle (.create _) | .cycle _ handle .remove =>
    cases asked
    exact elsewhere.2
  | .cycle _ handle (.createIfMissing _) =>
    rcases asked with rfl | rfl
    · trivial
    · exact elsewhere.2
  | .cycle _ handle .next =>
    rcases asked with rfl | asked
    · trivial
    · apply asked.elsewhere elsewhere.1
      rw [List.mem_singleton]
      exact Ne.symm elsewhere.2

/-- A command elsewhere can be carried out on one of two deployments alone. -/
theorem Alike.perform_left (alike : Alike name first second) {command : Command}
    (elsewhere : command.Elsewhere name) :
    Alike name (first.perform command).2 second := by
  apply perform_keeps fun after => Alike name after second
  · intro request after asked kept
    exact kept.serve_left (elsewhere_of_mayAsk elsewhere asked)
  · exact alike

/-! ### Commands on the cycle -/

/-- The client cannot tell deployments apart that are alike to the cycle, and leaves
them alike. -/
def Heeds {α : Type} (name : String) (client : Client α) : Prop :=
  ∀ first second, Alike name first second →
    (client.run serve first).1 = (client.run serve second).1 ∧
      Alike name (client.run serve first).2 (client.run serve second).2

/-- The requests for the record under the name. -/
inductive Request.Own (name : String) : Request → Prop
  | has : Own name (.store (.has name))
  | read : Own name (.store (.read name))
  | replace (fields : List (String × String)) : Own name (.store (.replace name fields))
  | delete : Own name (.store (.delete name))

theorem heeds_done {α : Type} (result : α) : Heeds name (.done result : Client α) :=
  fun _ _ alike => ⟨rfl, alike⟩

/-- What is under a key after a record was put there does not depend on what was there
before. -/
theorem get?_replaced (records : Records) (key : String) (record : Record) :
    (if record.isEmpty then records.erase key else records.insert key record).get? key =
      if record.isEmpty then none else some record := by
  split
  · exact (Table.get?_erase _ _ _).trans (if_pos rfl)
  · exact (Table.get?_insert _ _ _ _).trans (if_pos rfl)

/-- A request for the record is answered the same by two deployments that are alike to
the cycle, and leaves the same record in both. -/
theorem Alike.answered (alike : Alike name first second) {request : Request}
    (own : request.Own name) :
    ∃ answer : request.Answer,
      (serve request first).1 = .returned answer ∧
      (serve request second).1 = .returned answer ∧
      (serve request first).2.store.records.get? name =
        (serve request second).2.store.records.get? name := by
  obtain ⟨_, _, outage_eq, record_eq⟩ := alike
  cases own with
  | has =>
    refine ⟨second.store.has name, ?_, rfl, record_eq⟩
    show Ending.returned (first.store.has name) = _
    rw [Store.has, Store.has, outage_eq, Table.contains, Table.contains, record_eq]
  | read =>
    refine ⟨second.store.read name, ?_, rfl, record_eq⟩
    show Ending.returned (first.store.read name) = _
    rw [Store.read, Store.read, outage_eq, record_eq]
  | replace fields =>
    by_cases down : second.store.outage = true
    · rw [serve_replace_of_outage down, serve_replace_of_outage (outage_eq.trans down)]
      exact ⟨_, rfl, rfl, record_eq⟩
    · rw [serve_replace down, serve_replace (outage_eq ▸ down)]
      exact ⟨_, rfl, rfl, (get?_replaced _ _ _).trans (get?_replaced _ _ _).symm⟩
  | delete =>
    by_cases down : second.store.outage = true
    · rw [serve_delete_of_outage down, serve_delete_of_outage (outage_eq.trans down)]
      exact ⟨_, rfl, rfl, record_eq⟩
    · rw [serve_delete down, serve_delete (outage_eq ▸ down)]
      refine ⟨_, rfl, rfl, ?_⟩
      exact (Table.get?_erase _ _ _).trans
        ((if_pos rfl).trans ((Table.get?_erase _ _ _).trans (if_pos rfl)).symm)

/-- Two deployments that are alike to the cycle stay so when both serve a request that
leaves them the same record. -/
theorem Alike.serve_both (alike : Alike name first second) {request : Request}
    (discreet : request.Discreet)
    (record_eq : (serve request first).2.store.records.get? name =
      (serve request second).2.store.records.get? name) :
    Alike name (serve request first).2 (serve request second).2 where
  left := alike.left.serve discreet
  right := alike.right.serve discreet
  outage_eq := by
    rw [outage_serve, outage_serve]
    split
    · rfl
    · exact alike.outage_eq
  record_eq := record_eq

section

variable {α : Type}

theorem heeds_ask {request : Request} (own : request.Own name)
    {next : request.Answer → Client α} (heeds : ∀ answer, Heeds name (next answer)) :
    Heeds name (.ask request next) := by
  intro first second alike
  obtain ⟨answer, left, right, record_eq⟩ := alike.answered own
  have discreet : request.Discreet := by cases own <;> trivial
  rw [run_ask_eq_resume next (Prod.ext left rfl), run_ask_eq_resume next (Prod.ext right rfl)]
  exact heeds answer _ _ (alike.serve_both discreet record_eq)

theorem resume_done {β : Type} (result : β → α) (ending : Ending β) (after : Deployment) :
    resume (fun answer => .done (result answer)) ending after = (ending.map result, after) := by
  cases ending with
  | returned answer => rfl
  | panicked message => rfl

/-- An execution of the bundled script keeps a deployment shared. -/
theorem Shared.run_consulting (shared : first.Shared) (executor : Nat) (keys args : List String)
    (result : Except Failure Scalar → α) :
    ((consulting executor .bundled keys args fun answer => .done (result answer)).run
      Deployment.serve first).2.Shared := by
  have asks : (consulting executor .bundled keys args fun answer =>
      .done (result answer)).Asks Deployment.serve Request.Discreet := by
    apply asks_consulting
    · intro request asked
      match request with
      | .remember _ _ _ => exact fun _ => asked.2.2
      | .lookUp _ _ | .store (.load _) | .store (.eval _ _ _) => trivial
      | .store (.has _) | .store (.replace _ _) | .store (.delete _) | .store (.read _)
      | .store (.bind _ _) | .store .flush | .store (.setOutage _) => exact asked.elim
    · exact fun _ => trivial
  exact asks.run_keeps (fun _ _ discreet kept => kept.serve discreet) shared

/-- Which executor runs the bundled script on the cycle, what that one remembers and
which scripts are loaded makes no difference to the cycle. -/
theorem heeds_consulting (executor : Nat) (args : List String)
    (result : Except Failure Scalar → α) :
    Heeds name (consulting executor .bundled [name] args fun answer =>
      .done (result answer)) := by
  intro first second alike
  by_cases down : first.store.outage = true
  · rw [run_consulting_of_outage down,
      run_consulting_of_outage (alike.outage_eq.symm.trans down)]
    exact ⟨rfl, alike⟩
  · -- Both runs amount to one application of the native script to the same record.
    have sharedLeft := alike.left.run_consulting executor [name] args result
    have sharedRight := alike.right.run_consulting executor [name] args result
    obtain ⟨left, becameLeft, runLeft⟩ := alike.left.sound.run_consulting executor [name]
      args (fun answer => .done (result answer)) down
    obtain ⟨right, becameRight, runRight⟩ := alike.right.sound.run_consulting executor
      [name] args (fun answer => .done (result answer)) (alike.outage_eq ▸ down)
    rw [runLeft, resume_done] at sharedLeft ⊢
    rw [runRight, resume_done] at sharedRight ⊢
    obtain ⟨answered, record_eq⟩ := Cycle.advance_congr alike.record_eq args
    exact ⟨congrArg (Ending.map result) answered,
      { left := sharedLeft
        right := sharedRight
        outage_eq := by rw [becameLeft.outage_eq, becameRight.outage_eq, alike.outage_eq]
        record_eq := by rw [becameLeft.records_eq, becameRight.records_eq, record_eq] }⟩

end

/-- A command on the cycle cannot tell deployments apart that are alike to it. -/
theorem heeds_client {command : Command} (concerns : command.concerns name = true) :
    Heeds name command.client := by
  cases command with
  | store request =>
    cases request with
    | has key =>
      cases eq_of_beq concerns
      exact heeds_ask .has fun _ => heeds_done _
    | read key =>
      cases eq_of_beq concerns
      exact heeds_ask .read fun _ => heeds_done _
    | replace key fields =>
      cases eq_of_beq concerns
      exact heeds_ask (.replace fields) fun _ => heeds_done _
    | delete key =>
      cases eq_of_beq concerns
      exact heeds_ask .delete fun _ => heeds_done _
    | load body | eval digest keys args | bind body native | flush | setOutage on =>
      cases concerns
  | cachedDigest executor name => cases concerns
  | execute executor script keys args =>
    obtain ⟨bundled, only⟩ := Bool.and_eq_true_iff.mp concerns
    cases eq_of_beq bundled
    cases eq_of_beq only
    rw [Command.client, execute_bind]
    exact heeds_consulting executor args _
  | cycle executor handle call =>
    cases eq_of_beq concerns
    have create : ∀ elements,
        Heeds name (Command.client (.cycle executor ⟨name, .bundled⟩ (.create elements))) := by
      intro elements
      rw [Command.client_create]
      split
      · exact heeds_done _
      · exact heeds_ask (.replace _) fun _ => heeds_done _
    cases call with
    | exists? =>
      rw [Command.client_exists]
      exact heeds_ask .has fun _ => heeds_done _
    | create elements => exact create elements
    | createIfMissing elements =>
      rw [Command.client_createIfMissing]
      apply heeds_ask .has
      rintro (failure | (_ | _))
      · exact heeds_done _
      · exact create elements
      · exact heeds_done _
    | next =>
      rw [Command.client_next]
      apply heeds_ask .has
      rintro (failure | (_ | _))
      · exact heeds_done _
      · exact heeds_done _
      · exact heeds_consulting executor [] _
    | remove =>
      rw [Command.client_remove]
      exact heeds_ask .delete fun _ => heeds_done _

/-! ## Whole histories -/

/-- The commands of a history that are about the cycle under the name, each with what
came of it. -/
def resultsOn (name : String) (commands : List Command) (deployment : Deployment) :
    List (Command × Ending Outcome) :=
  (commands.zip (deployment.performAll commands).1).filter fun entry =>
    entry.1.concerns name

theorem resultsOn_cons (command : Command) (rest : List Command) (deployment : Deployment) :
    resultsOn name (command :: rest) deployment =
      if command.concerns name then
        (command, (deployment.perform command).1) ::
          resultsOn name rest (deployment.perform command).2
      else resultsOn name rest (deployment.perform command).2 := by
  rw [resultsOn, performAll_cons, List.zip_cons_cons, List.filter_cons]
  rfl

/-- A command that both of two deployments carry out leaves them alike, and if it is on
the cycle it comes to the same. -/
theorem Alike.perform_both (alike : Alike name first second) {command : Command}
    (allowed : command.Allowed name) :
    Alike name (first.perform command).2 (second.perform command).2 ∧
      (command.concerns name = true →
        (first.perform command).1 = (second.perform command).1) := by
  rcases allowed with concerns | elsewhere | ⟨on, rfl⟩
  · obtain ⟨same, after⟩ := heeds_client concerns first second alike
    exact ⟨after, fun _ => same⟩
  · constructor
    · exact ((alike.perform_left elsewhere).symm.perform_left elsewhere).symm
    · intro concerns
      rw [elsewhere.concerns_eq_false] at concerns
      cases concerns
  · constructor
    · have discreet : (Request.store (.setOutage on)).Discreet := trivial
      exact alike.serve_both discreet alike.record_eq
    · exact nofun

theorem leaveOut_nil {α : Type} (items : List α) : leaveOut [] items = items := by
  cases items <;> rfl

/-- Two deployments that are alike to the cycle tell the same on it, also if commands
elsewhere are left out on one of them. -/
theorem Alike.resultsOn_leaveOut (alike : Alike name first second)
    {commands : List Command} {marks : List Bool}
    (allowed : ∀ command ∈ commands, command.Allowed name)
    (removed : ∀ entry ∈ commands.zip marks, entry.2 = true → entry.1.Elsewhere name) :
    resultsOn name (leaveOut marks commands) second = resultsOn name commands first ∧
      (second.performAll (leaveOut marks commands)).2.store.records.get? name =
        (first.performAll commands).2.store.records.get? name := by
  induction commands generalizing first second marks with
  | nil =>
    have none : leaveOut marks ([] : List Command) = [] := by
      rcases marks with _ | ⟨_ | _, marks⟩ <;> rfl
    rw [none]
    exact ⟨rfl, alike.record_eq.symm⟩
  | cons command rest ih =>
    rw [List.forall_mem_cons] at allowed
    -- a command that is kept is carried out on both, whatever becomes of the others
    have kept : ∀ marks : List Bool,
        (∀ entry ∈ rest.zip marks, entry.2 = true → entry.1.Elsewhere name) →
        resultsOn name (command :: leaveOut marks rest) second =
            resultsOn name (command :: rest) first ∧
          (second.performAll (command :: leaveOut marks rest)).2.store.records.get? name =
            (first.performAll (command :: rest)).2.store.records.get? name := by
      intro marks later
      obtain ⟨after, same⟩ := alike.perform_both allowed.1
      obtain ⟨results, record⟩ := ih after allowed.2 later
      rw [resultsOn_cons, resultsOn_cons, results]
      constructor
      · split
        · rename_i concerns
          rw [same concerns]
        · rfl
      · exact record
    match marks with
    | [] =>
      have unmarked := kept [] fun entry listed => absurd listed (by simp)
      rw [leaveOut_nil] at unmarked
      exact unmarked
    | false :: marks =>
      rw [List.zip_cons_cons, List.forall_mem_cons] at removed
      exact kept marks removed.2
    | true :: marks =>
      rw [List.zip_cons_cons, List.forall_mem_cons] at removed
      have elsewhere := removed.1 rfl
      obtain ⟨results, record⟩ := ih (alike.perform_left elsewhere) allowed.2 removed.2
      rw [resultsOn_cons, elsewhere.concerns_eq_false, if_neg Bool.false_ne_true]
      exact ⟨results, record⟩

/-- **Cycles do not disturb each other.** Take any history of a new deployment in which
every command is on the cycle under a name, or elsewhere, or a switch. Leaving out any of
the commands elsewhere changes neither what comes of the commands on the cycle nor the
record that it has at the end. -/
theorem resultsOn_leaveOut_elsewhere {name : String} {commands : List Command}
    {marks : List Bool} (allowed : ∀ command ∈ commands, command.Allowed name)
    (removed : ∀ entry ∈ commands.zip marks, entry.2 = true → entry.1.Elsewhere name) :
    resultsOn name (leaveOut marks commands) new = resultsOn name commands new ∧
      (new.performAll (leaveOut marks commands)).2.store.records.get? name =
        (new.performAll commands).2.store.records.get? name := by
  have alike : Alike name new new := ⟨shared_new, shared_new, rfl, rfl⟩
  exact alike.resultsOn_leaveOut allowed removed

/-- A cycle of lamps beside one of doors. A foreign script is bound and run on the doors,
where it panics after it has written; then scripts are unloaded, and there is an outage
during which both cycles are called. -/
def crossing : List Command :=
  [.cycle 0 ⟨"lamps", .bundled⟩ (.create ["red", "green"]),
    .cycle 0 ⟨"doors", .bundled⟩ (.create ["in"]),
    .store (.bind "toll" (Samples.putThen (.panicked "the bell broke"))),
    .cycle 0 ⟨"lamps", .bundled⟩ .next,
    .execute 0 ⟨"toll", "toll"⟩ ["doors"] ["0", "out"],
    .store .flush,
    .cycle 0 ⟨"lamps", .bundled⟩ .next,
    .store (.setOutage true),
    .cycle 1 ⟨"doors", .bundled⟩ .next,
    .cycle 1 ⟨"lamps", .bundled⟩ .next,
    .store (.setOutage false),
    .cycle 1 ⟨"lamps", .bundled⟩ .next]

/-- What is left out of `crossing`: all that is done with the doors but their creation, the
binding, and that scripts are unloaded. -/
def crossingMarks : List Bool :=
  [false, false, true, false, true, true, false, false, true]

end Deployment

/-- Setting a field of a record leaves the other records alone. -/
theorem Samples.confined_put : NativeScript.Confined Samples.put := by
  intro records keys args name apart
  simp only [Samples.put]
  split
  · rename_i key field value
    rw [List.mem_singleton] at apart
    exact (Table.get?_insert _ _ _ _).trans (if_neg (Ne.symm apart))
  · rfl

theorem Samples.confined_putThen (ending : Ending (Except Failure Scalar)) :
    NativeScript.Confined (Samples.putThen ending) := by
  intro records keys args name apart
  rw [Samples.snd_putThen]
  exact Samples.confined_put records keys args name apart

namespace Deployment

theorem resultsOn_leaveOut_crossing :
    (∀ command ∈ crossing, command.Allowed "lamps") ∧
      (∀ entry ∈ crossing.zip crossingMarks, entry.2 = true → entry.1.Elsewhere "lamps") ∧
      resultsOn "lamps" (leaveOut crossingMarks crossing) new =
        resultsOn "lamps" crossing new ∧
      (new.performAll (leaveOut crossingMarks crossing)).2.store.records.get? "lamps" =
        (new.performAll crossing).2.store.records.get? "lamps" := by
  have doors : ∀ executor call,
      (Command.cycle executor ⟨"doors", .bundled⟩ call).Elsewhere "lamps" :=
    fun _ _ => ⟨.inl rfl, by decide⟩
  have lamps : ∀ executor call,
      (Command.cycle executor ⟨"lamps", .bundled⟩ call).Allowed "lamps" :=
    fun _ _ => .inl (beq_self_eq_true _)
  have bind : (Command.store (.bind "toll"
      (Samples.putThen (.panicked "the bell broke")))).Elsewhere "lamps" :=
    ⟨by decide +kernel, Samples.confined_putThen _⟩
  have toll : (Command.execute 0 ⟨"toll", "toll"⟩ ["doors"] ["0", "out"]).Elsewhere "lamps" :=
    ⟨.inr (by decide), by decide⟩
  have switch : ∀ on, (Command.store (.setOutage on)).Allowed "lamps" :=
    fun on => .inr (.inr ⟨on, rfl⟩)
  have allowed : ∀ command ∈ crossing, command.Allowed "lamps" := by
    simp only [crossing, List.forall_mem_cons]
    exact ⟨lamps _ _, .inr (.inl (doors _ _)), .inr (.inl bind), lamps _ _, .inr (.inl toll),
      .inr (.inl trivial), lamps _ _, switch _, .inr (.inl (doors _ _)), lamps _ _, switch _,
      lamps _ _, List.forall_mem_nil _⟩
  have removed : ∀ entry ∈ crossing.zip crossingMarks,
      entry.2 = true → entry.1.Elsewhere "lamps" := by
    simp only [crossing, crossingMarks, List.zip_cons_cons, List.zip_nil_right,
      List.forall_mem_cons]
    exact ⟨nofun, nofun, fun _ => bind, nofun, fun _ => toll, fun _ => trivial, nofun, nofun,
      fun _ => doors _ _, List.forall_mem_nil _⟩
  exact ⟨allowed, removed, resultsOn_leaveOut_elsewhere allowed removed⟩

end Deployment

end Carousel
