/-
# When an executor loads scripts and when it runs them again

An executor can be put in front of any backend. Here nothing is known of the backend: it
may answer every call as it likes, hand out any digest, fail in any way, panic, and
change its mind from call to call. What the executor does then is told as the list of its
calls to the backend, each with what the executor remembered when it was made.

There are few courses that an execution can take. It loads the script first if it
remembers no digest under the name of the script. It tries again once, and only if it is
told that the script is unknown: it loads the script, and runs it if that succeeds. What
the last call comes to is the result. In between the memory changes in one way only: a
load that succeeds puts its digest under the name of the script.
-/

import Carousel.Proofs.Applications

namespace Carousel

/-- A call to a backend, and how it ended. -/
inductive Backend.Call
  | load (body : String) (ending : Ending (Except Failure String))
  | eval (digest : String) (keys args : List String)
    (ending : Ending (Except Failure Scalar))

namespace Backend.Call

@[simp]
def isLoad : Call → Bool
  | .load _ _ => true
  | .eval _ _ _ _ => false

@[simp]
def isEval : Call → Bool
  | .load _ _ => false
  | .eval _ _ _ _ => true

/-- The digest that a load has given out. -/
def given? : Call → Option String
  | .load _ (.returned (.ok digest)) => some digest
  | _ => none

/-- What an execution comes to that ends with the call. A load that succeeds is no end. -/
def result? : Call → Option (Ending (Except Failure Scalar))
  | .load _ (.returned (.ok _)) => none
  | .load _ (.returned (.error failure)) => some (.returned (.error failure))
  | .load _ (.panicked message) => some (.panicked message)
  | .eval _ _ _ ending => some ending

end Backend.Call

namespace Executor

/-- A call to the backend, the name of the script for which it was made, and what the
executor remembered when it was made. -/
structure Contact where
  name : String
  memory : DigestCache
  call : Backend.Call

/-- What is remembered after a call: a digest that was given out is put under the name of
the script. -/
def Contact.leaves (contact : Contact) : DigestCache :=
  match contact.call.given? with
  | some digest => contact.memory.insert contact.name digest
  | none => contact.memory

/-- A script to be executed on keys and arguments. -/
structure Task where
  script : Script
  keys : List String
  args : List String

/-- A call that is made to carry out a task. -/
def Task.contact (task : Task) (memory : DigestCache) (call : Backend.Call) : Contact :=
  ⟨task.script.name, memory, call⟩

section

variable (task : Task) (memory : DigestCache) (call : Backend.Call)

@[simp]
theorem Task.contact_name : (task.contact memory call).name = task.script.name :=
  rfl

@[simp]
theorem Task.contact_memory : (task.contact memory call).memory = memory :=
  rfl

@[simp]
theorem Task.contact_call : (task.contact memory call).call = call :=
  rfl

end

section

variable {σ α : Type} (backend : Backend σ)

/-- The call to the backend that a request leads to. -/
def contact? (task : Task) : Request × (DigestCache × σ) → Option Contact
  | (.load body, memory, state) =>
    some (task.contact memory (.load body (backend.load body state).1))
  | (.eval digest keys args, memory, state) =>
    some (task.contact memory
      (.eval digest keys args (backend.eval digest keys args state).1))
  | (.lookUp _, _) | (.remember _ _, _) => none

/-- The calls that a program makes to the backend, for a task, when it is run to its end. -/
def contacts (task : Task) (program : Program interface α) (start : DigestCache × σ) :
    List Contact :=
  (program.trace (serve backend) start).filterMap (contact? backend task)

/-- The program that carries out a task. -/
def Task.program (task : Task) : Program interface (Except Failure Scalar) :=
  execute task.script task.keys task.args

/-- What was remembered before a task was carried out, the calls that were made to the
backend, and how the execution ended. -/
structure Performance where
  task : Task
  memory : DigestCache
  contacts : List Contact
  ending : Ending (Except Failure Scalar)

def perform (task : Task) (start : DigestCache × σ) : Performance × (DigestCache × σ) :=
  ({ task
     memory := start.1
     contacts := contacts backend task task.program start
     ending := (task.program.run (serve backend) start).1 },
    (task.program.run (serve backend) start).2)

/-- Carry out tasks, each on what the one before it left. -/
def performAll : List Task → DigestCache × σ → List Performance × (DigestCache × σ)
  | [], start => ([], start)
  | task :: rest, start =>
    let (performance, after) := perform backend task start
    let (performances, final) := performAll rest after
    (performance :: performances, final)

end

/-! ## The courses of an execution -/

section

variable (task : Task)

/-- The courses that an execution can take after it was told that the script is unknown:
the calls, how it ends, and what is remembered then. -/
inductive Again (memory : DigestCache) :
    List Contact → Ending (Except Failure Scalar) → DigestCache → Prop
  | loadPanicked (message : String) :
    Again memory [task.contact memory (.load task.script.body (.panicked message))]
      (.panicked message) memory
  | loadFailed (failure : Failure) :
    Again memory [task.contact memory (.load task.script.body (.returned (.error failure)))]
      (.returned (.error failure)) memory
  | run (digest : String) (ending : Ending (Except Failure Scalar)) :
    Again memory
      [task.contact memory (.load task.script.body (.returned (.ok digest))),
        task.contact (memory.insert task.script.name digest)
          (.eval digest task.keys task.args ending)]
      ending (memory.insert task.script.name digest)

/-- The courses of an execution that has a digest. -/
inductive Having (memory : DigestCache) (digest : String) :
    List Contact → Ending (Except Failure Scalar) → DigestCache → Prop
  | settled {ending : Ending (Except Failure Scalar)}
    (settles : ∀ unknown, ending ≠ .returned (.error (.noScript unknown))) :
    Having memory digest [task.contact memory (.eval digest task.keys task.args ending)]
      ending memory
  | unknown (named : String) {calls : List Contact}
    {ending : Ending (Except Failure Scalar)} {after : DigestCache}
    (again : Again task memory calls ending after) :
    Having memory digest
      (task.contact memory
          (.eval digest task.keys task.args (.returned (.error (.noScript named)))) ::
        calls)
      ending after

/-- The courses of an execution. -/
inductive Course (memory : DigestCache) :
    List Contact → Ending (Except Failure Scalar) → DigestCache → Prop
  | remembered {digest : String} (known : memory.get? task.script.name = some digest)
    {calls : List Contact} {ending : Ending (Except Failure Scalar)} {after : DigestCache}
    (having : Having task memory digest calls ending after) :
    Course memory calls ending after
  | loadPanicked (fresh : memory.get? task.script.name = none) (message : String) :
    Course memory [task.contact memory (.load task.script.body (.panicked message))]
      (.panicked message) memory
  | loadFailed (fresh : memory.get? task.script.name = none) (failure : Failure) :
    Course memory [task.contact memory (.load task.script.body (.returned (.error failure)))]
      (.returned (.error failure)) memory
  | loaded (fresh : memory.get? task.script.name = none) {digest : String}
    {calls : List Contact} {ending : Ending (Except Failure Scalar)} {after : DigestCache}
    (having : Having task (memory.insert task.script.name digest) digest calls ending after) :
    Course memory
      (task.contact memory (.load task.script.body (.returned (.ok digest))) :: calls)
      ending after

end

/-! ## Following a program -/

section

variable {σ α : Type} {backend : Backend σ} {task : Task} {memory : DigestCache}
  {state : σ} {course : List Contact → Ending α → DigestCache → Prop}

/-- The calls of a program, how it ends, and what is remembered then, are as it is said
of the course. -/
def Follows (backend : Backend σ) (task : Task)
    (course : List Contact → Ending α → DigestCache → Prop)
    (program : Program interface α) (start : DigestCache × σ) : Prop :=
  course (contacts backend task program start) (program.run (serve backend) start).1
    (program.run (serve backend) start).2.1

theorem follows_done {result : α} (holds : course [] (.returned result) memory) :
    Follows backend task course (.done result) (memory, state) :=
  holds

theorem follows_lookUp {name : String} {rest : Option String → Program interface α}
    (follows : Follows backend task course (rest (memory.get? name)) (memory, state)) :
    Follows backend task course (.ask (.lookUp name) rest) (memory, state) :=
  follows

theorem follows_remember {name digest : String} {rest : Unit → Program interface α}
    (follows : Follows backend task course (rest ()) (memory.insert name digest, state)) :
    Follows backend task course (.ask (.remember name digest) rest) (memory, state) :=
  follows

theorem follows_load {body : String} {rest : Except Failure String → Program interface α}
    (panicked : ∀ message,
      course [task.contact memory (.load body (.panicked message))] (.panicked message)
        memory)
    (returned : ∀ answer after, Follows backend task
      (fun calls => course (task.contact memory (.load body (.returned answer)) :: calls))
      (rest answer) (memory, after)) :
    Follows backend task course (.ask (.load body) rest) (memory, state) := by
  rcases served : backend.load body state with ⟨answer | message, after⟩
  · simpa only [Follows, contacts, Program.trace, Program.run_ask, serve, served,
      List.filterMap_cons, contact?] using returned answer after
  · simpa only [Follows, contacts, Program.trace, Program.run_ask, serve, served,
      List.filterMap_cons, List.filterMap_nil, contact?] using panicked message

theorem follows_eval {digest : String} {keys args : List String}
    {rest : Except Failure Scalar → Program interface α}
    (panicked : ∀ message,
      course [task.contact memory (.eval digest keys args (.panicked message))]
        (.panicked message) memory)
    (returned : ∀ answer after, Follows backend task
      (fun calls =>
        course (task.contact memory (.eval digest keys args (.returned answer)) :: calls))
      (rest answer) (memory, after)) :
    Follows backend task course (.ask (.eval digest keys args) rest) (memory, state) := by
  rcases served : backend.eval digest keys args state with ⟨answer | message, after⟩
  · simpa only [Follows, contacts, Program.trace, Program.run_ask, serve, served,
      List.filterMap_cons, contact?] using returned answer after
  · simpa only [Follows, contacts, Program.trace, Program.run_ask, serve, served,
      List.filterMap_cons, List.filterMap_nil, contact?] using panicked message

end

section

variable {σ : Type} (backend : Backend σ) (task : Task) (memory : DigestCache) (state : σ)

theorem follows_reload :
    Follows backend task (Again task memory) (reload task.script task.keys task.args)
      (memory, state) := by
  apply follows_load
  · exact .loadPanicked
  · rintro (failure | digest) after
    · exact follows_done (.loadFailed failure)
    · apply follows_remember
      apply follows_eval
      · exact fun message => .run digest (.panicked message)
      · exact fun answer _ => follows_done (.run digest (.returned answer))

/-- An execution that has a digest runs it, and reloads the script if it is unknown. -/
theorem follows_having (digest : String) :
    Follows backend task (Having task memory digest)
      (eval digest task.keys task.args >>= fun
        | .error (.noScript _) => reload task.script task.keys task.args
        | answer => pure answer)
      (memory, state) := by
  apply follows_eval
  · exact fun message => .settled nofun
  · rintro ((reason | elapsed | named | message) | scalar) after
    · exact follows_done (.settled nofun)
    · exact follows_done (.settled nofun)
    · have again := follows_reload backend task memory after
      exact Having.unknown named again
    · exact follows_done (.settled nofun)
    · exact follows_done (.settled nofun)

theorem follows_execute :
    Follows backend task (Course task memory) task.program (memory, state) := by
  apply follows_lookUp
  cases known : memory.get? task.script.name with
  | some digest => exact Course.remembered known (follows_having backend task memory state digest)
  | none =>
    apply follows_load
    · exact .loadPanicked known
    · rintro (failure | digest) after
      · exact follows_done (.loadFailed known failure)
      · apply follows_remember
        have having := follows_having backend task
          (memory.insert task.script.name digest) after digest
        exact Course.loaded known having

end

/-! ## One execution -/

/-- How the first run of a script ended, and the calls that were made after it. -/
def firstRun? : List Contact → Option (Ending (Except Failure Scalar) × List Contact)
  | [] => none
  | ⟨_, _, .load _ _⟩ :: rest => firstRun? rest
  | ⟨_, _, .eval _ _ _ ending⟩ :: rest => some (ending, rest)

@[simp]
theorem firstRun?_load (task : Task) (memory : DigestCache) (body : String)
    (ended : Ending (Except Failure String)) (calls : List Contact) :
    firstRun? (task.contact memory (.load body ended) :: calls) = firstRun? calls :=
  rfl

@[simp]
theorem firstRun?_eval (task : Task) (memory : DigestCache) (digest : String)
    (keys args : List String) (ended : Ending (Except Failure Scalar))
    (calls : List Contact) :
    firstRun? (task.contact memory (.eval digest keys args ended) :: calls) =
      some (ended, calls) :=
  rfl

/-- The call is one that a task asks for: it loads the script's own body, or runs the
digest that is remembered under the name of the script, on the keys and arguments of the
task. -/
def Task.Asks (task : Task) (contact : Contact) : Prop :=
  contact.name = task.script.name ∧
    match contact.call with
    | .load body _ => body = task.script.body
    | .eval digest keys args _ =>
      contact.memory.get? task.script.name = some digest ∧ keys = task.keys ∧
        args = task.args

/-- The number of calls of a kind. -/
def count (kind : Backend.Call → Bool) (calls : List Contact) : Nat :=
  calls.countP fun contact => kind contact.call

@[simp]
theorem count_nil (kind : Backend.Call → Bool) : count kind [] = 0 :=
  rfl

@[simp]
theorem count_contact (kind : Backend.Call → Bool) (task : Task) (memory : DigestCache)
    (call : Backend.Call) (calls : List Contact) :
    count kind (task.contact memory call :: calls) =
      count kind calls + if kind call then 1 else 0 :=
  List.countP_cons

/-- What is said of the calls from the first run of a script on: a second run follows
exactly if the first one did not know the script and the load right after it succeeded,
there is such a load whenever the first run did not know the script, and the last call
decides. -/
structure RunsProperly (task : Task) (calls : List Contact)
    (ending : Ending (Except Failure Scalar)) : Prop where
  runs_again_iff : 1 < count Backend.Call.isEval calls ↔
    ∃ named reload rest digest,
      firstRun? calls = some (.returned (.error (.noScript named)), reload :: rest) ∧
        reload.call = .load task.script.body (.returned (.ok digest))
  reloads : ∀ named rest,
    firstRun? calls = some (.returned (.error (.noScript named)), rest) →
      ∃ reload more ended, rest = reload :: more ∧
        reload.call = .load task.script.body ended
  runs_le : count Backend.Call.isEval calls ≤ 2
  answers : ∃ last, calls.getLast? = some last ∧ last.call.result? = some ending

/-- What is said of one execution. -/
structure Performance.Proper (performance : Performance) : Prop where
  starts : performance.contacts.head?.map Contact.memory = some performance.memory
  asks : ∀ contact ∈ performance.contacts, performance.task.Asks contact
  loads_first_iff :
    (∃ contact rest, performance.contacts = contact :: rest ∧ contact.call.isLoad = true) ↔
      performance.memory.get? performance.task.script.name = none
  runs : RunsProperly performance.task performance.contacts performance.ending
  loads_le : count Backend.Call.isLoad performance.contacts ≤ 2

section

variable {task : Task} {memory after : DigestCache} {calls : List Contact}
  {ending : Ending (Except Failure Scalar)}

theorem Again.asks (again : Again task memory calls ending after) :
    ∀ contact ∈ calls, task.Asks contact := by
  cases again <;> simp [Task.Asks]

theorem Having.asks {digest : String} (known : memory.get? task.script.name = some digest)
    (having : Having task memory digest calls ending after) :
    ∀ contact ∈ calls, task.Asks contact := by
  cases having with
  | settled settles => simp [Task.Asks, known]
  | unknown named again =>
    rw [List.forall_mem_cons]
    exact ⟨⟨rfl, known, rfl, rfl⟩, again.asks⟩

theorem Course.asks (course : Course task memory calls ending after) :
    ∀ contact ∈ calls, task.Asks contact := by
  cases course with
  | remembered known having => exact having.asks known
  | loadPanicked fresh message | loadFailed fresh failure => simp [Task.Asks]
  | loaded fresh having =>
    rw [List.forall_mem_cons]
    exact ⟨⟨rfl, rfl⟩, having.asks (by simp)⟩

theorem Having.runsProperly {digest : String}
    (having : Having task memory digest calls ending after) :
    RunsProperly task calls ending := by
  cases having with
  | settled settles =>
    exact
      { runs_again_iff := by simp
        reloads := by
          intro named rest told
          simp only [firstRun?_eval, Option.some.injEq, Prod.mk.injEq] at told
          exact absurd told.1 (settles named)
        runs_le := by simp
        answers := ⟨_, rfl, rfl⟩ }
  | unknown named again =>
    cases again with
    | loadPanicked message | loadFailed failure =>
      exact
        { runs_again_iff := by simp
          reloads := by
            rintro _ _ ⟨⟩
            exact ⟨_, _, _, rfl, rfl⟩
          runs_le := by simp
          answers := ⟨_, rfl, rfl⟩ }
    | run fresh ended =>
      exact
        { runs_again_iff := by
            refine iff_of_true ?_ ⟨named, _, _, fresh, rfl, rfl⟩
            simp
          reloads := by
            rintro _ _ ⟨⟩
            exact ⟨_, _, _, rfl, rfl⟩
          runs_le := by simp
          answers := ⟨_, rfl, rfl⟩ }

theorem Having.loads_le {digest : String}
    (having : Having task memory digest calls ending after) :
    count Backend.Call.isLoad calls ≤ 1 := by
  cases having with
  | settled settles => simp
  | unknown named again => cases again <;> simp

/-- A load in front of a run changes nothing about what is said of the run. -/
theorem RunsProperly.cons_load (runs : RunsProperly task calls ending) {body : String}
    {ended : Ending (Except Failure String)} :
    RunsProperly task (task.contact memory (.load body ended) :: calls) ending where
  runs_again_iff := by
    have again := runs.runs_again_iff
    simpa using again
  reloads := runs.reloads
  runs_le := by
    have few := runs.runs_le
    simpa using few
  answers := by
    obtain ⟨last, final, result⟩ := runs.answers
    refine ⟨last, ?_, result⟩
    rw [List.getLast?_cons, final]
    rfl

/-- A load that ends the execution is not followed by a run. -/
theorem runsProperly_load {ended : Ending (Except Failure String)}
    (result : (Backend.Call.load task.script.body ended).result? = some ending) :
    RunsProperly task [task.contact memory (.load task.script.body ended)] ending where
  runs_again_iff := by simp [firstRun?]
  reloads := nofun
  runs_le := by simp
  answers := ⟨_, rfl, result⟩

theorem Course.proper (course : Course task memory calls ending after) :
    Performance.Proper ⟨task, memory, calls, ending⟩ where
  starts := by
    cases course with
    | remembered known having => cases having <;> rfl
    | loadPanicked fresh message | loadFailed fresh failure | loaded fresh having => rfl
  asks := course.asks
  loads_first_iff := by
    cases course with
    | remembered known having =>
      cases having <;> simp [known]
    | loadPanicked fresh message | loadFailed fresh failure | loaded fresh having =>
      simp [fresh]
  runs := by
    cases course with
    | remembered known having => exact having.runsProperly
    | loadPanicked fresh message | loadFailed fresh failure => exact runsProperly_load rfl
    | loaded fresh having => exact having.runsProperly.cons_load
  loads_le := by
    cases course with
    | remembered known having => exact Nat.le_succ_of_le having.loads_le
    | loadPanicked fresh message | loadFailed fresh failure =>
      simp
    | loaded fresh having =>
      have loads := having.loads_le
      simpa using loads

end

/-! ## Many executions -/

/-- The digest that the last load for a script name has given out, of those that
succeeded. -/
def lastGiven (name : String) (log : List Contact) : Option String :=
  (log.filterMap fun contact =>
    if contact.name = name then contact.call.given? else none).getLast?

/-- What was remembered at each call, and at the end. -/
def memories (log : List Contact) (final : DigestCache) : List DigestCache :=
  log.map Contact.memory ++ [final]

/-- What is remembered at any moment is what the loads before it have given out last, and
a call that gives out no digest changes nothing about it. -/
structure Remembers (log : List Contact) (final : DigestCache) : Prop where
  cached : ∀ (index : Nat) (memory : DigestCache),
    (memories log final)[index]? = some memory →
      ∀ name, memory.get? name = lastGiven name (log.take index)
  kept : ∀ (index : Nat) (contact : Contact), log[index]? = some contact →
    contact.call.given? = none → (memories log final)[index + 1]? = some contact.memory

/-- Each call finds what the one before it leaves. -/
inductive Leads : DigestCache → List Contact → DigestCache → Prop
  | nil (memory : DigestCache) : Leads memory [] memory
  | cons {contact : Contact} {rest : List Contact} {final : DigestCache}
    (leads : Leads contact.leaves rest final) : Leads contact.memory (contact :: rest) final

theorem lastGiven_cons (name : String) (contact : Contact) (log : List Contact) :
    lastGiven name (contact :: log) =
      (lastGiven name log).or (if contact.name = name then contact.call.given? else none) := by
  rw [lastGiven, List.filterMap_cons]
  cases given : (if contact.name = name then contact.call.given? else none) with
  | none => exact (Option.or_none).symm
  | some digest =>
    rw [List.getLast?_cons, ← lastGiven]
    cases lastGiven name log with
    | none => rfl
    | some later => rfl

theorem get?_leaves (contact : Contact) (name : String) :
    contact.leaves.get? name =
      (if contact.name = name then contact.call.given? else none).or
        (contact.memory.get? name) := by
  rw [Contact.leaves]
  cases contact.call.given? with
  | none => simp
  | some digest =>
    rw [Table.get?_insert]
    split <;> rfl

section

variable {start middle final : DigestCache} {log later : List Contact}

theorem Leads.append (leads : Leads start log middle) (on : Leads middle later final) :
    Leads start (log ++ later) final := by
  induction leads with
  | nil memory => exact on
  | cons leads ih => exact .cons (ih on)

theorem Leads.getElem?_memories_zero (leads : Leads start log final) :
    (memories log final)[0]? = some start := by
  cases leads <;> rfl

theorem Leads.cached (leads : Leads start log final) {index : Nat} {memory : DigestCache}
    (found : (memories log final)[index]? = some memory) (name : String) :
    memory.get? name = (lastGiven name (log.take index)).or (start.get? name) := by
  induction leads generalizing index with
  | nil start =>
    cases index with
    | zero =>
      cases found
      rfl
    | succ index => cases found
  | @cons contact rest final leads ih =>
    cases index with
    | zero =>
      cases found
      rfl
    | succ index =>
      rw [ih found, get?_leaves, List.take_succ_cons, lastGiven_cons, Option.or_assoc]

theorem Leads.kept (leads : Leads start log final) {index : Nat} {contact : Contact}
    (found : log[index]? = some contact) (nothing : contact.call.given? = none) :
    (memories log final)[index + 1]? = some contact.memory := by
  induction leads generalizing index with
  | nil start => cases found
  | @cons first rest final leads ih =>
    cases index with
    | zero =>
      cases found
      have same : contact.leaves = contact.memory := by rw [Contact.leaves, nothing]
      exact leads.getElem?_memories_zero.trans (congrArg some same)
    | succ index => exact ih found

end

section

variable {task : Task} {memory after : DigestCache} {calls : List Contact}
  {ending : Ending (Except Failure Scalar)}

theorem leads_of_nothing {call : Backend.Call} (nothing : call.given? = none)
    (leads : Leads memory calls after) :
    Leads memory (task.contact memory call :: calls) after := by
  have same : (task.contact memory call).leaves = memory := by
    simp [Contact.leaves, nothing]
  exact .cons (same ▸ leads)

theorem leads_of_given {call : Backend.Call} {digest : String}
    (given : call.given? = some digest)
    (leads : Leads (memory.insert task.script.name digest) calls after) :
    Leads memory (task.contact memory call :: calls) after := by
  have noted : (task.contact memory call).leaves =
      memory.insert task.script.name digest := by
    simp [Contact.leaves, given]
  exact .cons (noted ▸ leads)

theorem Again.leads (again : Again task memory calls ending after) :
    Leads memory calls after := by
  cases again with
  | loadPanicked message | loadFailed failure => exact leads_of_nothing rfl (.nil _)
  | run digest ending => exact leads_of_given rfl (leads_of_nothing rfl (.nil _))

theorem Having.leads {digest : String} (having : Having task memory digest calls ending after) :
    Leads memory calls after := by
  cases having with
  | settled settles => exact leads_of_nothing rfl (.nil _)
  | unknown named again => exact leads_of_nothing rfl again.leads

theorem Course.leads (course : Course task memory calls ending after) :
    Leads memory calls after := by
  cases course with
  | remembered known having => exact having.leads
  | loadPanicked fresh message | loadFailed fresh failure => exact leads_of_nothing rfl (.nil _)
  | loaded fresh having => exact leads_of_given rfl having.leads

end

section

variable {σ : Type} (backend : Backend σ)

theorem performAll_follows (tasks : List Task) (start : DigestCache × σ) :
    (performAll backend tasks start).1.map Performance.task = tasks ∧
      (∀ performance ∈ (performAll backend tasks start).1, performance.Proper) ∧
      Leads start.1 ((performAll backend tasks start).1.flatMap Performance.contacts)
        (performAll backend tasks start).2.1 := by
  induction tasks generalizing start with
  | nil => exact ⟨rfl, List.forall_mem_nil _, .nil _⟩
  | cons task rest ih =>
    have course : Course task start.1 _ _ _ := follows_execute backend task start.1 start.2
    obtain ⟨listed, proper, leads⟩ := ih (perform backend task start).2
    refine ⟨congrArg (task :: ·) listed, ?_, course.leads.append leads⟩
    exact List.forall_mem_cons.mpr ⟨course.proper, proper⟩

/-- **An executor registers and retries by rule.** Whatever the backend answers, call by
call, every execution loads its script first exactly if no digest is remembered under the
script's name, runs a second time exactly if the first run did not know the script and the
load right after it succeeded, passes its keys and arguments on to every run, makes at most
two loads and two runs, and comes to what its last call comes to. The digest that is run is
the remembered one, and what is remembered is at any moment what the last successful load
for the name gave out. -/
theorem performAll_proper (tasks : List Task) (state : σ) :
    (performAll backend tasks (.empty, state)).1.map Performance.task = tasks ∧
      (∀ performance ∈ (performAll backend tasks (.empty, state)).1, performance.Proper) ∧
      Remembers ((performAll backend tasks (.empty, state)).1.flatMap Performance.contacts)
        (performAll backend tasks (.empty, state)).2.1 := by
  obtain ⟨listed, proper, leads⟩ := performAll_follows backend tasks (.empty, state)
  refine ⟨listed, proper, ?_, fun index contact => leads.kept⟩
  intro index memory found name
  rw [leads.cached found, Table.get?_empty, Option.or_none]

end

end Executor

end Carousel
