/-
# Where an advance can stand between two of its requests

Between its requests an advance is in one of nine stages. What the next request
makes of it depends on the deployment that it meets, which other clients may have
changed since the last one. All that can happen is listed here, stage by stage:
the request, how it ends, the stage that it leads to, and the deployment that it
leaves. Only one kind of step turns the wheel that the cycle's record holds, and
that step settles the advance with the very element that the wheel stood on.

So an advance cannot turn the wheel and go on. Whatever fails, and whatever is
tried again, comes before the turn. What the client does with the result of its
advance is left open: an advance is followed by any program that takes the result.
-/

import Carousel.Proofs.Sound
import Carousel.Proofs.Traffic

namespace Carousel

/-- Where an advance can stand: in front of one of its requests, or at its end. -/
inductive Stage
  | checking
  | consulting
  | loading
  | noting
  | running
  | reloading
  | renoting
  | rerunning
  | settled (result : Except Fault (Option String))

/-- A request, and how it ended. -/
structure Exchange where
  request : Deployment.Request
  ending : Ending request.Answer

/-- The exchange that a client makes with a deployment next, if it makes one. -/
def Deployment.exchange? {α : Type} (deployment : Deployment) :
    Ending (Deployment.Client α) → Option Exchange
  | .returned (.ask request _) => some ⟨request, (Deployment.serve request deployment).1⟩
  | _ => none

namespace Cycle

/-- What the answer to an execution of the script means for an advance. -/
def ofAnswer (handle : Cycle) : Except Failure Scalar → Except Fault (Option String)
  | .error failure => .error (.store failure)
  | .ok scalar => handle.ofScalar scalar

end Cycle

namespace Stage

section

variable {α : Type} (executor : Nat) (handle : Cycle)
  (next : Except Fault (Option String) → Deployment.Client α)

/-- What follows the answer to the execution of an advance's script. -/
def onAnswer (answer : Except Failure Scalar) : Deployment.Client α :=
  next (handle.ofAnswer answer)

/-- What is left to be done in a stage, by a client that goes on with `next` when
its advance is settled. -/
def program : Stage → Deployment.Client α
  | checking => (Deployment.operate executor handle.next).bind next
  | consulting =>
    Deployment.consulting executor handle.script [handle.name] []
      (onAnswer handle next)
  | loading =>
    Deployment.loading executor handle.script [handle.name] [] (onAnswer handle next)
  | noting =>
    Deployment.noting executor handle.script [handle.name] [] (onAnswer handle next)
      Script.bundledDigest
  | running =>
    Deployment.running executor handle.script [handle.name] [] (onAnswer handle next)
      Script.bundledDigest
  | reloading =>
    Deployment.reloading executor handle.script [handle.name] [] (onAnswer handle next)
  | renoting =>
    Deployment.renoting executor handle.script [handle.name] [] (onAnswer handle next)
      Script.bundledDigest
  | rerunning =>
    Deployment.rerunning [handle.name] [] (onAnswer handle next) Script.bundledDigest
  | settled result => next result

/-- An advance starts by looking for its cycle. -/
theorem program_checking :
    program executor handle next .checking =
      .ask (.store (.has handle.name)) fun
        | .error failure => next (.error (.store failure))
        | .ok true => program executor handle next .consulting
        | .ok false => next (.ok none) := by
  refine congrArg (Program.ask _) (funext fun answer => ?_)
  rcases answer with failure | (_ | _)
  · rfl
  · rfl
  · rw [program, ← Deployment.execute_bind]
    refine (Program.bind_assoc
      (Deployment.execute executor handle.script [handle.name] []) _ next).trans ?_
    refine congrArg
      (Program.bind (Deployment.execute executor handle.script [handle.name] []))
      (funext fun answer => ?_)
    cases answer with
    | error failure => rfl
    | ok scalar => rfl

/-- An advance that is not settled has a request to make. -/
theorem exists_program_eq_ask {stage : Stage}
    (pending : ∀ result, stage ≠ .settled result) :
    ∃ request rest, program executor handle next stage = .ask request rest := by
  cases stage with
  | settled result => exact absurd rfl (pending result)
  | checking => exact ⟨_, _, program_checking executor handle next⟩
  | _ => exact ⟨_, _, rfl⟩

/-- What an advance that runs the script asks for. -/
abbrev evaluation : Deployment.Request :=
  .store (.eval Script.bundledDigest [handle.name] [])

/-- An advance is about to run the script, for the first or the second time. -/
def Runs (stage : Stage) : Prop :=
  stage = running ∨ stage = rerunning

/-- An advance is about to load the script, for the first or the second time. -/
def Loads (stage : Stage) : Prop :=
  stage = loading ∨ stage = reloading

end

/-- All that the next request of an advance can do where a wheel is stored under
the name of the cycle, or nothing: what it asks for in its stage and is answered,
the stage that it comes to, and the deployment that it leaves. -/
inductive Leads (executor : Nat) (handle : Cycle) (wheel : Option Wheel)
    (before : Deployment) : Stage → Exchange → Stage → Deployment → Prop
  | missing (up : ¬ before.store.outage = true) (none : wheel = none) :
    Leads executor handle wheel before checking
      ⟨.store (.has handle.name), .returned (.ok false)⟩ (settled (.ok .none)) before
  | found (up : ¬ before.store.outage = true) (some : wheel.isSome = true) :
    Leads executor handle wheel before checking
      ⟨.store (.has handle.name), .returned (.ok true)⟩ consulting before
  | known
    (known : (before.cache executor).get? Script.bundledName =
      some Script.bundledDigest) :
    Leads executor handle wheel before consulting
      ⟨.lookUp executor Script.bundledName, .returned (some Script.bundledDigest)⟩
      running before
  | unknown (unknown : (before.cache executor).get? Script.bundledName = none) :
    Leads executor handle wheel before consulting
      ⟨.lookUp executor Script.bundledName, .returned none⟩ loading before
  | loaded (up : ¬ before.store.outage = true) :
    Leads executor handle wheel before loading
      ⟨.store (.load Script.bundled.body), .returned (.ok Script.bundledDigest)⟩
      noting before.withBundled
  | noted :
    Leads executor handle wheel before noting
      ⟨.remember executor Script.bundledName Script.bundledDigest, .returned ()⟩
      running
      (before.remember executor Script.bundledName Script.bundledDigest)
  | reloaded (up : ¬ before.store.outage = true) :
    Leads executor handle wheel before reloading
      ⟨.store (.load Script.bundled.body), .returned (.ok Script.bundledDigest)⟩
      renoting before.withBundled
  | renoted :
    Leads executor handle wheel before renoting
      ⟨.remember executor Script.bundledName Script.bundledDigest, .returned ()⟩
      rerunning
      (before.remember executor Script.bundledName Script.bundledDigest)
  | turned {stage : Stage} (runs : stage.Runs) (up : ¬ before.store.outage = true)
    (loaded : before.store.loaded.contains Script.bundledDigest = true)
    {turning : Wheel} (some : wheel = some turning) :
    Leads executor handle wheel before stage
      ⟨evaluation handle, .returned (.ok (.text turning.current))⟩
      (settled (.ok turning.current))
      (before.withRecords
        (before.store.records.insert handle.name turning.turn.record))
  | vanished {stage : Stage} (runs : stage.Runs) (up : ¬ before.store.outage = true)
    (loaded : before.store.loaded.contains Script.bundledDigest = true)
    (none : wheel = none) :
    Leads executor handle wheel before stage
      ⟨evaluation handle, .returned (.ok .nil)⟩ (settled (.ok .none)) before
  | refused (up : ¬ before.store.outage = true)
    (unloaded : ¬ before.store.loaded.contains Script.bundledDigest = true) :
    Leads executor handle wheel before running
      ⟨evaluation handle, .returned (.error (.noScript Script.bundledDigest))⟩
      reloading before
  | refusedAgain (up : ¬ before.store.outage = true)
    (unloaded : ¬ before.store.loaded.contains Script.bundledDigest = true) :
    Leads executor handle wheel before rerunning
      ⟨evaluation handle, .returned (.error (.noScript Script.bundledDigest))⟩
      (settled (.error (.store (.noScript Script.bundledDigest)))) before
  | hasFailed (down : before.store.outage = true) :
    Leads executor handle wheel before checking
      ⟨.store (.has handle.name), .returned (.error Store.outageFailure)⟩
      (settled (.error (.store Store.outageFailure))) before
  | loadFailed {stage : Stage} (loads : stage.Loads)
    (down : before.store.outage = true) :
    Leads executor handle wheel before stage
      ⟨.store (.load Script.bundled.body), .returned (.error Store.outageFailure)⟩
      (settled (.error (.store Store.outageFailure))) before
  | evalFailed {stage : Stage} (runs : stage.Runs)
    (down : before.store.outage = true) :
    Leads executor handle wheel before stage
      ⟨evaluation handle, .returned (.error Store.outageFailure)⟩
      (settled (.error (.store Store.outageFailure))) before

/-- An advance makes an exchange with a deployment, whatever comes after the
advance: the request is served so, and the client goes from one stage to the other. -/
structure Makes (executor : Nat) (handle : Cycle) (before : Deployment)
    (stage : Stage) (exchange : Exchange) (later : Stage) (after : Deployment) :
    Prop where
  served : Deployment.serve exchange.request before = (exchange.ending, after)
  carries : ∀ {α : Type} (next : Except Fault (Option String) → Deployment.Client α),
    ∃ rest, program executor handle next stage = .ask exchange.request rest ∧
      exchange.ending.map rest = .returned (program executor handle next later)

section

variable {executor : Nat} {handle : Cycle} {wheel : Option Wheel}
  {deployment : Deployment}

/-- The next request of an advance is one of those listed. -/
def Advances (executor : Nat) (handle : Cycle) (wheel : Option Wheel)
    (deployment : Deployment) (stage : Stage) : Prop :=
  ∃ exchange later after, Leads executor handle wheel deployment stage exchange later after ∧
    Makes executor handle deployment stage exchange later after

theorem advances_checking
    (held : deployment.store.records.get? handle.name = wheel.map Wheel.record) :
    Advances executor handle wheel deployment .checking := by
  have served := Deployment.serve_has deployment handle.name
  by_cases down : deployment.store.outage = true
  · rw [Store.has, if_pos down] at served
    refine ⟨_, _, _, .hasFailed down, served, fun next => ?_⟩
    exact ⟨_, program_checking executor handle next, rfl⟩
  · rw [Store.has, if_neg down, Table.contains, held, Option.isSome_map] at served
    cases wheel with
    | none =>
      refine ⟨_, _, _, .missing down rfl, served, fun next => ?_⟩
      exact ⟨_, program_checking executor handle next, rfl⟩
    | some wheel =>
      refine ⟨_, _, _, .found down rfl, served, fun next => ?_⟩
      exact ⟨_, program_checking executor handle next, rfl⟩

theorem advances_consulting (bundled : handle.script = .bundled)
    (sound : deployment.Sound) :
    Advances executor handle wheel deployment .consulting := by
  have served := Deployment.serve_lookUp deployment executor Script.bundledName
  cases known : (deployment.cache executor).get? Script.bundledName with
  | none =>
    rw [known] at served
    refine ⟨_, _, _, .unknown known, served, fun next => ?_⟩
    rw [program, bundled]
    exact ⟨_, rfl, by rw [program, bundled]; rfl⟩
  | some digest =>
    have same := sound.cached executor digest known
    subst same
    rw [known] at served
    refine ⟨_, _, _, .known known, served, fun next => ?_⟩
    rw [program, bundled]
    exact ⟨_, rfl, by rw [program, bundled]; rfl⟩

/-- Loading the script gives its digest, or settles the advance with a failure. -/
theorem advances_load {stage later : Stage} (loads : stage.Loads)
    (leads : ¬ deployment.store.outage = true →
      Leads executor handle wheel deployment stage
        ⟨.store (.load Script.bundled.body), .returned (.ok Script.bundledDigest)⟩
        later deployment.withBundled)
    (carries : ∀ {α : Type}
      (next : Except Fault (Option String) → Deployment.Client α),
      ∃ rest, program executor handle next stage =
          .ask (.store (.load Script.bundled.body)) rest ∧
        (∀ failure, rest (.error failure) = next (.error (.store failure))) ∧
        rest (.ok Script.bundledDigest) = program executor handle next later)
    (sound : deployment.Sound) :
    Advances executor handle wheel deployment stage := by
  by_cases down : deployment.store.outage = true
  · refine ⟨_, _, _, .loadFailed loads down,
      Deployment.serve_load_of_outage down _, fun next => ?_⟩
    obtain ⟨rest, asks, failed, _⟩ := carries next
    exact ⟨rest, asks, congrArg Ending.returned (failed _)⟩
  · refine ⟨_, _, _, leads down, sound.serve_load down, fun next => ?_⟩
    obtain ⟨rest, asks, _, given⟩ := carries next
    exact ⟨rest, asks, congrArg Ending.returned given⟩

/-- Running the script settles the advance, unless the script is not loaded. -/
theorem advances_eval {stage refused : Stage} (runs : stage.Runs)
    (leads : ¬ deployment.store.outage = true →
      ¬ deployment.store.loaded.contains Script.bundledDigest = true →
      Leads executor handle wheel deployment stage
        ⟨evaluation handle, .returned (.error (.noScript Script.bundledDigest))⟩
        refused deployment)
    (carries : ∀ {α : Type}
      (next : Except Fault (Option String) → Deployment.Client α),
      ∃ rest, program executor handle next stage = .ask (evaluation handle) rest ∧
        (∀ answer, (∀ digest, answer ≠ .error (.noScript digest)) →
          rest answer = next (handle.ofAnswer answer)) ∧
        rest (.error (.noScript Script.bundledDigest)) =
          program executor handle next refused)
    (sound : deployment.Sound)
    (held : deployment.store.records.get? handle.name = wheel.map Wheel.record)
    (small : ∀ held ∈ wheel, held.Small) :
    Advances executor handle wheel deployment stage := by
  by_cases down : deployment.store.outage = true
  · refine ⟨_, _, _, .evalFailed runs down,
      Deployment.serve_eval_of_outage down _ _ _, fun next => ?_⟩
    obtain ⟨rest, asks, answered, _⟩ := carries next
    have given := answered (.error Store.outageFailure)
      fun digest => by simp [Store.outageFailure]
    exact ⟨rest, asks, congrArg Ending.returned given⟩
  · by_cases loaded :
        deployment.store.loaded.contains Script.bundledDigest = true
    · have served := sound.serve_eval_of_loaded down loaded [handle.name] []
      cases wheel with
      | none =>
        rw [Cycle.advance_of_missing held] at served
        refine ⟨_, _, _, .vanished runs down loaded rfl, served, fun next => ?_⟩
        obtain ⟨rest, asks, answered, _⟩ := carries next
        exact ⟨rest, asks, congrArg Ending.returned
          (answered (.ok .nil) fun digest => by simp)⟩
      | some turning =>
        rw [turning.advance_of_record held (small turning rfl)] at served
        refine ⟨_, _, _, .turned runs down loaded rfl, served, fun next => ?_⟩
        obtain ⟨rest, asks, answered, _⟩ := carries next
        exact ⟨rest, asks, congrArg Ending.returned
          (answered (.ok (.text turning.current)) fun digest => by simp)⟩
    · refine ⟨_, _, _, leads down loaded,
        Deployment.serve_eval_of_unloaded down loaded _ _, fun next => ?_⟩
      obtain ⟨rest, asks, _, unknown⟩ := carries next
      exact ⟨rest, asks, congrArg Ending.returned unknown⟩

/-- Whatever the stage, and whatever has happened since the last request, the next
request of an advance is one of those listed. -/
theorem advances_of_sound (executor : Nat) (bundled : handle.script = .bundled)
    (sound : deployment.Sound)
    (held : deployment.store.records.get? handle.name = wheel.map Wheel.record)
    (small : ∀ held ∈ wheel, held.Small) {stage : Stage}
    (pending : ∀ result, stage ≠ .settled result) :
    Advances executor handle wheel deployment stage := by
  cases stage with
  | checking => exact advances_checking held
  | consulting => exact advances_consulting bundled sound
  | loading =>
    apply advances_load (.inl rfl) .loaded
    · intro α next
      rw [program, bundled]
      exact ⟨_, rfl, fun _ => rfl, by rw [program, bundled]⟩
    · exact sound
  | noting =>
    refine ⟨_, _, _, .noted, Deployment.serve_remember _ _ _ _, fun next => ?_⟩
    rw [program, bundled]
    exact ⟨_, rfl, by rw [program, bundled]; rfl⟩
  | running =>
    apply advances_eval (.inl rfl) .refused
    · intro α next
      refine ⟨_, rfl, fun answer known => ?_, rfl⟩
      exact Deployment.afterRun_eq_next executor handle.script _ _ _ known
    · exact sound
    · exact held
    · exact small
  | reloading =>
    apply advances_load (.inr rfl) .reloaded
    · intro α next
      rw [program, bundled]
      exact ⟨_, rfl, fun _ => rfl, by rw [program, bundled]⟩
    · exact sound
  | renoting =>
    refine ⟨_, _, _, .renoted, Deployment.serve_remember _ _ _ _, fun next => ?_⟩
    rw [program, bundled]
    exact ⟨_, rfl, rfl⟩
  | rerunning =>
    apply advances_eval (.inr rfl) .refusedAgain
    · intro α next
      exact ⟨_, rfl, fun _ _ => rfl, rfl⟩
    · exact sound
    · exact held
    · exact small
  | settled result => exact absurd rfl (pending result)

/-- No request of an advance makes a deployment unsound. -/
theorem Leads.sound {stage later : Stage} {exchange : Exchange} {after : Deployment}
    (leads : Leads executor handle wheel deployment stage exchange later after)
    (sound : deployment.Sound) : after.Sound := by
  cases leads with
  | loaded | reloaded => exact sound.withBundled
  | noted | renoted => exact sound.remember fun _ => rfl
  | turned => exact sound.withRecords _
  | _ => exact sound

end

end Stage

/-! ## Advances of clients who show the element that they got -/

namespace Command

/-- A client that ends with what its advance came to. -/
def showing (result : Except Fault (Option String)) : Deployment.Client Outcome :=
  .done (result.map .optionalText)

theorem client_next_eq_program (executor : Nat) (handle : Cycle) :
    client (.cycle executor handle .next) =
      Stage.program executor handle showing .checking := by
  rw [client_next, Stage.program_checking]
  refine congrArg (Program.ask _) (funext fun answer => ?_)
  rcases answer with failure | (_ | _)
  · rfl
  · rfl
  · refine congrArg (Deployment.consulting executor handle.script [handle.name] [])
      (funext fun answer => ?_)
    cases answer with
    | error failure => rfl
    | ok scalar => rfl

end Command

/-- The call is an advance, somewhere on its way. -/
def Staged (handle : Cycle) (call : Ending (Deployment.Client Outcome)) : Prop :=
  ∃ executor stage,
    call = .returned (Stage.program executor handle Command.showing stage)

/-- A request of a call, made on a deployment, hands nothing out: the records stay
as they are, and the call has a text to come back with only if it had it before. -/
structure Quiet (handle : Cycle) (call : Ending (Deployment.Client Outcome))
    (before : Deployment)
    (ended : Ending (Deployment.Client Outcome) × Deployment) : Prop where
  staged : Staged handle ended.1
  sound : ended.2.Sound
  records_eq : ended.2.store.records = before.store.records
  text_eq : Traffic.text? ended.1 = Traffic.text? call
  nothing : ∀ client number, ∀ served ∈ Traffic.entry client number before call,
    served.handout? = none

/-- A request of a call, made on a deployment, turns a wheel: the element that the
wheel stood on is handed out, and is what the call comes back with. -/
structure Turned (handle : Cycle) (wheel : Wheel)
    (call : Ending (Deployment.Client Outcome)) (before : Deployment)
    (ended : Ending (Deployment.Client Outcome) × Deployment) : Prop where
  staged : Staged handle ended.1
  sound : ended.2.Sound
  records_eq : ended.2.store.records =
    before.store.records.insert handle.name wheel.turn.record
  before_none : Traffic.text? call = none
  text_eq : Traffic.text? ended.1 = some wheel.current
  handed : ∀ client number,
    (Traffic.entry client number before call).filterMap Served.handout? =
      [⟨client, number, some wheel.position, wheel.current⟩]

namespace Stage

variable {executor : Nat} {handle : Cycle} {deployment after : Deployment}
  {stage later : Stage} {exchange : Exchange}

/-- What a client is after its next request, and what goes into the log. -/
theorem Makes.advance_eq
    (makes : Makes executor handle deployment stage exchange later after) {α : Type}
    (next : Except Fault (Option String) → Deployment.Client α) :
    Pool.advance Deployment.serve (.returned (program executor handle next stage))
        deployment =
      (.returned (program executor handle next later), after) := by
  obtain ⟨rest, asks, given⟩ := makes.carries next
  rw [asks, Pool.advance, makes.served]
  exact congrArg (fun call => (call, after)) given

theorem Makes.exchange?_eq
    (makes : Makes executor handle deployment stage exchange later after) {α : Type}
    (next : Except Fault (Option String) → Deployment.Client α) :
    deployment.exchange? (.returned (program executor handle next stage)) =
      some exchange := by
  obtain ⟨rest, asks, _⟩ := makes.carries next
  rw [asks, Deployment.exchange?, makes.served]

theorem Makes.entry_eq
    (makes : Makes executor handle deployment stage exchange later after)
    (next : Except Fault (Option String) → Deployment.Client Outcome)
    (client number : Nat) :
    Traffic.entry client number deployment
        (.returned (program executor handle next stage)) =
      [⟨client, number, deployment, exchange.request, exchange.ending⟩] := by
  obtain ⟨rest, asks, _⟩ := makes.carries next
  rw [asks, Traffic.entry, makes.served]

/-- A client whose advance is not settled has nothing to show. -/
theorem Makes.text?_eq_none
    (makes : Makes executor handle deployment stage exchange later after)
    (next : Except Fault (Option String) → Deployment.Client Outcome) :
    Traffic.text? (.returned (program executor handle next stage)) = none := by
  obtain ⟨rest, asks, _⟩ := makes.carries next
  rw [asks]
  rfl

theorem quiet_of_makes
    (makes : Makes executor handle deployment stage exchange later after)
    (sound : after.Sound)
    (records_eq : after.store.records = deployment.store.records)
    (text_none : Traffic.text?
      (.returned (program executor handle Command.showing later)) = none)
    (nothing : ∀ client number,
      Served.handout? ⟨client, number, deployment, exchange.request,
        exchange.ending⟩ = none) :
    let call := .returned (program executor handle Command.showing stage)
    Quiet handle call deployment (Pool.advance Deployment.serve call deployment) := by
  intro call
  rw [makes.advance_eq]
  exact
    { staged := ⟨executor, later, rfl⟩
      sound := sound
      records_eq := records_eq
      text_eq := text_none.trans (makes.text?_eq_none _).symm
      nothing := by
        intro client number entry listed
        rw [makes.entry_eq, List.mem_singleton] at listed
        subst listed
        exact nothing client number }

/-- Whatever the stage, and whatever has happened since the last request, the next
request of an advance turns the wheel that it meets or leaves everything quiet. -/
theorem advance_program (executor : Nat) (bundled : handle.script = .bundled)
    (sound : deployment.Sound) {wheel : Option Wheel}
    (held : deployment.store.records.get? handle.name = wheel.map Wheel.record)
    (small : ∀ held ∈ wheel, held.Small) (stage : Stage) :
    let call := .returned (program executor handle Command.showing stage)
    let ended := Pool.advance Deployment.serve call deployment
    Quiet handle call deployment ended ∨
      ∃ turning ∈ wheel, Turned handle turning call deployment ended := by
  intro call ended
  by_cases settled : ∃ result, stage = .settled result
  · obtain ⟨result, rfl⟩ := settled
    left
    exact
      { staged := ⟨executor, .settled result, rfl⟩
        sound := sound
        records_eq := rfl
        text_eq := rfl
        nothing := by
          intro client number served listed
          cases listed }
  · have pending : ∀ result, stage ≠ .settled result :=
      fun result same => settled ⟨result, same⟩
    obtain ⟨exchange, later, after, leads, makes⟩ :=
      advances_of_sound executor bundled sound held small pending
    have still := leads.sound sound
    cases leads with
    | @turned _ runs up loaded turning same =>
      subst same
      refine .inr ⟨turning, rfl, ?_⟩
      have place : Cycle.currentIndex turning.record = some turning.position :=
        turning.currentIndex_record (small turning rfl)
      show Turned handle turning _ _ (Pool.advance _ _ _)
      rw [makes.advance_eq]
      exact
        { staged := ⟨executor, _, rfl⟩
          sound := still
          records_eq := rfl
          before_none := makes.text?_eq_none _
          text_eq := rfl
          handed := by
            intro client number
            rw [makes.entry_eq]
            simp only [List.filterMap_cons, List.filterMap_nil, Served.handout?,
              List.head?_cons, Option.bind_some, held, Option.map_some, place] }
    | _ => exact .inl (quiet_of_makes makes still rfl rfl fun _ _ => rfl)

end Stage

end Carousel
