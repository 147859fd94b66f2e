/-
# What the next request of any call does

A call on a cycle stands in front of one of its requests, or at its end. Whatever has
happened since its last request, the next one alters the record under the name of the
cycle in one of three ways or not at all: it writes the fields of a fresh cycle,
removes the record, or turns the wheel that the record holds.

A call is accounted for by the log. An advance that comes back with an element is the
client of a run of the script, which met a record that stood on that element. A
creation that looks first and then comes back without a failure has looked, and the
record is there unless it was removed since. Both accounts stay true whatever is
served afterwards.
-/

import Carousel.Proofs.Crowd
import Carousel.Proofs.Stages

namespace Carousel

open Deployment (Client)

/-- A request that is served moves its client on, and is logged. -/
theorem Pool.advance_ask {α : Type} {request : Deployment.Request}
    {ending : Ending request.Answer} {deployment after : Deployment}
    (rest : request.Answer → Client α)
    (served : Deployment.serve request deployment = (ending, after)) :
    Pool.advance Deployment.serve (.returned (.ask request rest)) deployment =
      (ending.map rest, after) := by
  rw [Pool.advance, served]

theorem Traffic.entry_ask {request : Deployment.Request} {ending : Ending request.Answer}
    {deployment after : Deployment} (client number : Nat)
    (rest : request.Answer → Client Outcome)
    (served : Deployment.serve request deployment = (ending, after)) :
    Traffic.entry client number deployment (.returned (.ask request rest)) =
      [⟨client, number, deployment, request, ending⟩] := by
  rw [Traffic.entry, served]

section

variable (handle : Cycle) (log : List Served) (client number : Nat)

/-- What an advance may come to: an element that a run of the script for this very call
has answered, from the record of a wheel that stood on it; nothing, if there is no
cycle; or a failure that is not the script's. -/
def Accounts : Except Fault (Option String) → Prop
  | .ok none => True
  | .ok (some element) => ∃ before wheel,
    ⟨client, number, before, Stage.evaluation handle, .returned (.ok (.text element))⟩ ∈
        log ∧
      before.store.records.get? handle.name = some (Wheel.record wheel) ∧
      wheel.elements[wheel.position]? = some element
  | .error fault =>
    fault = .store Store.outageFailure ∨ fault = .store (.noScript Script.bundledDigest)

/-- The call has looked for the cycle. If the record has not been removed since then,
it is present. -/
def Looked (present : Bool) : Prop :=
  ∃ earlier before ending later,
    log = earlier ++
        ⟨client, number, before, .store (.has handle.name), ending⟩ :: later ∧
      ((∀ served ∈ later, served.mark? handle.name ≠ some .removed) → present = true)

/-- Where a call that carries out an operation can stand while the record is present
or not. -/
inductive Stands (present : Bool) : Cycle.Call → Ending (Client Outcome) → Prop
  | started (executor : Nat) {call : Cycle.Call} (other : call ≠ .next) :
    Stands present call (.returned (Command.client (.cycle executor handle call)))
  | missing (executor : Nat) (elements : List String)
    (looked : Looked handle log client number true) :
    Stands present (.createIfMissing elements)
      (.returned (Command.client (.cycle executor handle (.create elements))))
  | staged (executor : Nat) (stage : Stage)
    (accounts : ∀ result, stage = .settled result → Accounts handle log client number result) :
    Stands present .next
      (.returned (Stage.program executor handle Command.showing stage))
  | ended {call : Cycle.Call} (other : call ≠ .next) (outcome : Outcome)
    (looked : ∀ elements, call = .createIfMissing elements → outcome = .ok .unit →
      Looked handle log client number present) :
    Stands present call (.returned (.done outcome))

end

/-- How a request of a call alters the wheel whose record is under the cycle's name,
as its marks tell. -/
inductive Alters (client number : Nat) (call : Cycle.Call) :
    List Mark → Option Wheel → Option Wheel → Prop
  | nothing (wheel : Option Wheel) : Alters client number call [] wheel wheel
  | written {elements : List String} {fresh : Wheel}
    (lists : call.elements? = some elements) (made : Wheel.fresh? elements = some fresh)
    (before : Option Wheel) :
    Alters client number call [.written client number (Cycle.freshFields elements)] before
      (some fresh)
  | removed (before : Option Wheel) : Alters client number call [.removed] before none
  | turned (wheel : Wheel) : Alters client number call [.ran] (some wheel) (some wheel.turn)
  | vanished : Alters client number call [.ran] none none

/-- What the next request of a call does: the entries that it adds to the log, what the
call is afterwards, and the deployment and the wheel that it leaves. -/
structure Proceeds (handle : Cycle) (log : List Served) (wheel : Option Wheel)
    (client number : Nat) (call : Cycle.Call) (entries : List Served)
    (ended : Ending (Client Outcome) × Deployment) (after : Option Wheel) : Prop where
  sound : ended.2.Sound
  held : ended.2.store.records.get? handle.name = after.map Wheel.record
  small : ∀ held ∈ after, held.Small
  alters : Alters client number call (entries.filterMap (Served.mark? handle.name)) wheel after
  stands : Stands handle (log ++ entries) client number after.isSome call ended.1

section

variable {handle : Cycle} {log : List Served} {client number : Nat}

/-! ## Accounts stay true -/

theorem Accounts.mono {result : Except Fault (Option String)}
    (accounts : Accounts handle log client number result) (entries : List Served) :
    Accounts handle (log ++ entries) client number result := by
  match result with
  | .ok none => trivial
  | .ok (some element) =>
    obtain ⟨before, wheel, listed, held⟩ := accounts
    exact ⟨before, wheel, List.mem_append_left entries listed, held⟩
  | .error fault => exact accounts

theorem Looked.mono {present still : Bool}
    (looked : Looked handle log client number present) {entries : List Served}
    (keeps : present = true →
      (∀ served ∈ entries, served.mark? handle.name ≠ some .removed) → still = true) :
    Looked handle (log ++ entries) client number still := by
  obtain ⟨earlier, before, ending, later, same, kept⟩ := looked
  refine ⟨earlier, before, ending, later ++ entries, ?_, ?_⟩
  · rw [same, List.append_assoc]
    rfl
  · intro spared
    rw [List.forall_mem_append] at spared
    exact keeps (kept spared.1) spared.2

theorem Stands.mono {present still : Bool} {call : Cycle.Call}
    {ending : Ending (Client Outcome)}
    (stands : Stands handle log client number present call ending) {entries : List Served}
    (keeps : present = true →
      (∀ served ∈ entries, served.mark? handle.name ≠ some .removed) → still = true) :
    Stands handle (log ++ entries) client number still call ending := by
  cases stands with
  | started executor other => exact .started executor other
  | missing executor elements looked =>
    exact .missing executor elements (looked.mono fun _ _ => rfl)
  | staged executor stage accounts =>
    exact .staged executor stage fun result same => (accounts result same).mono entries
  | ended other outcome looked =>
    exact .ended other outcome fun elements same ended =>
      (looked elements same ended).mono keeps

/-- A record that is not removed stays present. -/
theorem Alters.present {call : Cycle.Call} {marks : List Mark} {before after : Option Wheel}
    (alters : Alters client number call marks before after)
    (spared : .removed ∉ marks) (present : before.isSome = true) : after.isSome = true := by
  cases alters with
  | nothing => exact present
  | written => rfl
  | removed => exact absurd List.mem_cons_self spared
  | turned => rfl
  | vanished => exact present

end

/-! ## One request of one call -/

/-- Whatever the next request of the call is, it proceeds. -/
def Steps (handle : Cycle) (deployment : Deployment) (log : List Served)
    (wheel : Option Wheel) (client number : Nat) (call : Cycle.Call)
    (ending : Ending (Client Outcome)) : Prop :=
  ∃ after, Proceeds handle log wheel client number call
    (Traffic.entry client number deployment ending)
    (Pool.advance Deployment.serve ending deployment) after

section

variable {handle : Cycle} {deployment : Deployment} {log : List Served}
  {wheel : Option Wheel} {client number : Nat} {call : Cycle.Call}

/-- The state in which a call makes its next request. -/
structure Meets (handle : Cycle) (deployment : Deployment) (wheel : Option Wheel) :
    Prop where
  sound : deployment.Sound
  held : deployment.store.records.get? handle.name = wheel.map Wheel.record
  small : ∀ held ∈ wheel, held.Small

/-- A call without a request to make does nothing. -/
theorem steps_of_idle (meets : Meets handle deployment wheel)
    {ending : Ending (Client Outcome)}
    (idle : Pool.advance Deployment.serve ending deployment = (ending, deployment))
    (nothing : Traffic.entry client number deployment ending = [])
    (stands : Stands handle log client number wheel.isSome call ending) :
    Steps handle deployment log wheel client number call ending := by
  refine ⟨wheel, ?_⟩
  rw [idle, nothing]
  exact
    { sound := meets.sound
      held := meets.held
      small := meets.small
      alters := .nothing wheel
      stands := stands.mono fun present _ => present }

/-- A request that is not marked and leaves the records as they are only moves its own
call on. -/
theorem steps_of_quiet (meets : Meets handle deployment wheel)
    {request : Deployment.Request} {ending : Ending request.Answer} {after : Deployment}
    {rest : request.Answer → Client Outcome}
    (served : Deployment.serve request deployment = (ending, after))
    (sound : after.Sound) (records_eq : after.store.records = deployment.store.records)
    (quiet : Served.mark? handle.name ⟨client, number, deployment, request, ending⟩ = none)
    (stands : Stands handle (log ++ [⟨client, number, deployment, request, ending⟩])
      client number wheel.isSome call (ending.map rest)) :
    Steps handle deployment log wheel client number call (.returned (.ask request rest)) := by
  refine ⟨wheel, ?_⟩
  rw [Pool.advance_ask rest served, Traffic.entry_ask client number rest served]
  exact
    { sound := sound
      held := by
        rw [records_eq]
        exact meets.held
      small := meets.small
      alters := by
        rw [List.filterMap_cons, quiet]
        exact .nothing wheel
      stands := stands }

/-- A call that is about to look for the cycle finds it if the record is present, unless
there is an outage. -/
theorem steps_of_has (meets : Meets handle deployment wheel)
    {rest : Except Failure Bool → Client Outcome}
    (refused : ∀ entries, Stands handle (log ++ entries) client number wheel.isSome call
      (.returned (rest (.error Store.outageFailure))))
    (answered : ∀ before,
      Stands handle (log ++ [⟨client, number, before, .store (.has handle.name),
        .returned (.ok wheel.isSome)⟩]) client number wheel.isSome call
          (.returned (rest (.ok wheel.isSome)))) :
    Steps handle deployment log wheel client number call
      (.returned (.ask (.store (.has handle.name)) rest)) := by
  have served := Deployment.serve_has deployment handle.name
  by_cases down : deployment.store.outage = true
  · rw [Store.has, if_pos down] at served
    exact steps_of_quiet meets served meets.sound rfl rfl (refused _)
  · rw [Deployment.has_eq_of_up down, meets.held, Option.isSome_map] at served
    exact steps_of_quiet meets served meets.sound rfl rfl (answered deployment)

/-- A call that is about to write a fresh cycle writes it, unless the list is empty or
there is an outage. -/
theorem steps_of_create (meets : Meets handle deployment wheel) (executor : Nat)
    {elements : List String} (lists : call.elements? = some elements)
    (few : elements.length < Numeral.wordBound)
    (ends : ∀ entries present outcome, (outcome = .ok .unit → present = true) →
      Stands handle (log ++ entries) client number present call (.returned (.done outcome))) :
    Steps handle deployment log wheel client number call
      (.returned (Command.client (.cycle executor handle (.create elements)))) := by
  rw [Command.client_create]
  cases elements with
  | nil =>
    have stands := ends [] wheel.isSome (.error (.emptyCycle handle.name)) (by simp)
    rw [List.append_nil] at stands
    exact steps_of_idle meets rfl rfl stands
  | cons element rest =>
    rw [if_neg (by simp), Command.writing]
    by_cases down : deployment.store.outage = true
    · apply steps_of_quiet meets (Deployment.serve_replace_of_outage down _ _) meets.sound
      · rfl
      · rfl
      · apply ends
        simp [Command.ofAnswer]
    · have made := Wheel.fresh?_cons element rest
      have served := Deployment.serve_replace_of_fresh down made handle.name
      rw [Steps, Pool.advance_ask _ served, Traffic.entry_ask client number _ served]
      refine ⟨some ⟨element :: rest, 0, Nat.zero_lt_succ rest.length⟩, ?_⟩
      exact
        { sound := meets.sound.withRecords _
          held := (Table.get?_insert _ _ _ _).trans (if_pos rfl)
          small := by
            intro fresh same
            cases same
            exact Wheel.small_of_fresh? made few
          alters := by
            simp only [List.filterMap_cons, List.filterMap_nil, Served.mark?, if_pos]
            exact .written lists made wheel
          stands := by
            apply ends
            intro _
            rfl }

/-- A call that is about to remove the cycle removes it, unless there is an outage. -/
theorem steps_of_remove (meets : Meets handle deployment wheel) (executor : Nat)
    (other : call ≠ .next) (notCreating : ∀ elements, call ≠ .createIfMissing elements) :
    Steps handle deployment log wheel client number call
      (.returned (Command.client (.cycle executor handle .remove))) := by
  have ends : ∀ entries present outcome,
      Stands handle (log ++ entries) client number present call
        (.returned (.done outcome)) := by
    intro entries present outcome
    refine .ended other outcome ?_
    intro elements same
    exact absurd same (notCreating elements)
  rw [Command.client_remove]
  by_cases down : deployment.store.outage = true
  · exact steps_of_quiet meets (Deployment.serve_delete_of_outage down _) meets.sound rfl rfl
      (ends _ _ _)
  · have served := Deployment.serve_delete down handle.name
    rw [Steps, Pool.advance_ask _ served, Traffic.entry_ask client number _ served]
    refine ⟨none, ?_⟩
    exact
      { sound := meets.sound.withRecords _
        held := (Table.get?_erase _ _ _).trans (if_pos rfl)
        small := by
          intro held same
          cases same
        alters := by
          simp only [List.filterMap_cons, List.filterMap_nil, Served.mark?, if_pos]
          exact .removed wheel
        stands := ends _ _ _ }

/-- An advance that evaluates the script is marked if the script was run. -/
theorem mark?_evaluation (before : Deployment) (ending : Ending (Except Failure Scalar)) :
    Served.mark? handle.name ⟨client, number, before, Stage.evaluation handle, ending⟩ =
      if evaluated ending = true then some .ran else none := by
  simp [Served.mark?]

/-- The next request of an advance turns the wheel or leaves the record alone, and the
advance accounts for what it comes to. -/
theorem steps_of_staged (meets : Meets handle deployment wheel)
    (bundled : handle.script = .bundled) (executor : Nat) (stage : Stage)
    (accounts : ∀ result, stage = .settled result →
      Accounts handle log client number result) :
    Steps handle deployment log wheel client number .next
      (.returned (Stage.program executor handle Command.showing stage)) := by
  by_cases settled : ∃ result, stage = .settled result
  · obtain ⟨result, rfl⟩ := settled
    exact steps_of_idle meets rfl rfl (.staged executor _ accounts)
  · have pending : ∀ result, stage ≠ .settled result :=
      fun result same => settled ⟨result, same⟩
    obtain ⟨exchange, later, after, leads, makes⟩ :=
      Stage.advances_of_sound executor bundled meets.sound meets.held meets.small pending
    have still := leads.sound meets.sound
    rw [Steps, makes.advance_eq, makes.entry_eq]
    have quiet : after.store.records = deployment.store.records →
        Served.mark? handle.name
          ⟨client, number, deployment, exchange.request, exchange.ending⟩ = none →
        (∀ result, later = .settled result →
          Accounts handle log client number result) →
        ∃ left, Proceeds handle log wheel client number .next
          [⟨client, number, deployment, exchange.request, exchange.ending⟩]
          (.returned (Stage.program executor handle Command.showing later), after) left := by
      intro records_eq nothing settles
      refine ⟨wheel, ?_⟩
      exact
        { sound := still
          held := by
            rw [records_eq]
            exact meets.held
          small := meets.small
          alters := by
            rw [List.filterMap_cons, nothing]
            exact .nothing wheel
          stands := .staged executor later fun result same => (settles result same).mono _ }
    cases leads with
    | @turned _ runs up loaded turning same =>
      subst same
      have place : turning.Small := meets.small turning rfl
      refine ⟨some turning.turn, ?_⟩
      exact
        { sound := still
          held := (Table.get?_insert _ _ _ _).trans (if_pos rfl)
          small := by
            intro turned same
            cases same
            exact place
          alters := by
            rw [List.filterMap_cons, mark?_evaluation]
            exact .turned turning
          stands := by
            refine .staged executor _ ?_
            intro result same
            cases same
            exact ⟨deployment, turning, by simp, meets.held, turning.getElem?_position⟩ }
    | vanished runs up loaded same =>
      subst same
      refine ⟨none, ?_⟩
      exact
        { sound := still
          held := meets.held
          small := meets.small
          alters := by
            rw [List.filterMap_cons, mark?_evaluation]
            exact .vanished
          stands := by
            refine .staged executor _ ?_
            intro result same
            cases same
            trivial }
    | missing =>
      apply quiet rfl rfl
      intro result same
      cases same
      trivial
    | hasFailed | loadFailed =>
      apply quiet rfl rfl
      intro result same
      cases same
      exact .inl rfl
    | evalFailed =>
      apply quiet rfl (mark?_evaluation _ _)
      intro result same
      cases same
      exact .inl rfl
    | refused =>
      apply quiet rfl (mark?_evaluation _ _)
      intro result same
      cases same
    | refusedAgain =>
      apply quiet rfl (mark?_evaluation _ _)
      intro result same
      cases same
      exact .inr rfl
    | _ =>
      apply quiet rfl rfl
      intro result same
      cases same

/-- **Any call steps**, wherever it stands. -/
theorem Stands.steps {ending : Ending (Client Outcome)}
    (stands : Stands handle log client number wheel.isSome call ending)
    (meets : Meets handle deployment wheel) (bundled : handle.script = .bundled)
    (small : call.Small) : Steps handle deployment log wheel client number call ending := by
  cases stands with
  | staged executor stage accounts => exact steps_of_staged meets bundled executor stage accounts
  | ended other outcome looked => exact steps_of_idle meets rfl rfl (.ended other outcome looked)
  | missing executor elements looked =>
    apply steps_of_create meets executor rfl small
    intro entries present outcome created
    refine .ended (by simp) outcome ?_
    intro others _ succeeded
    exact looked.mono fun _ _ => created succeeded
  | started executor other =>
    cases call with
    | next => exact absurd rfl other
    | remove => exact steps_of_remove meets executor other (by simp)
    | create elements =>
      apply steps_of_create meets executor rfl small
      intro entries present outcome _
      refine .ended other outcome ?_
      intro others same
      cases same
    | exists? =>
      rw [Command.client_exists]
      apply steps_of_has meets
      · intro entries
        exact .ended other _ fun elements same => by cases same
      · intro before
        exact .ended other _ fun elements same => by cases same
    | createIfMissing elements =>
      rw [Command.client_createIfMissing]
      apply steps_of_has meets
      · intro entries
        exact .ended other _ fun elements _ failed => by cases failed
      · intro before
        generalize wheel.isSome = present
        have looked : Looked handle (log ++ [⟨client, number, before,
            .store (.has handle.name), .returned (.ok present)⟩]) client number true :=
          ⟨log, before, _, [], rfl, fun _ => rfl⟩
        cases present with
        | true => exact .ended other _ fun _ _ _ => looked
        | false => exact .missing executor elements looked

/-! ## What the end of a call tells -/

theorem Stands.accounts {present : Bool} {ending : Ending (Client Outcome)}
    (stands : Stands handle log client number present .next ending) :
    Traffic.underway ending = true ∨
      ∃ result, ending = .returned (.done (result.map .optionalText)) ∧
        Accounts handle log client number result := by
  cases stands with
  | started executor other => exact absurd rfl other
  | ended other => exact absurd rfl other
  | staged executor stage accounts =>
    by_cases settled : ∃ result, stage = .settled result
    · obtain ⟨result, rfl⟩ := settled
      exact .inr ⟨result, rfl, accounts result rfl⟩
    · obtain ⟨request, rest, asks⟩ :=
        Stage.exists_program_eq_ask executor handle Command.showing
          fun result same => settled ⟨result, same⟩
      rw [asks]
      exact .inl rfl

theorem Stands.looked {present : Bool} {ending : Ending (Client Outcome)}
    {elements : List String}
    (stands : Stands handle log client number present (.createIfMissing elements) ending)
    (succeeded : ending = .returned (.done (.ok .unit))) :
    Looked handle log client number present := by
  cases stands with
  | started executor other =>
    rw [Command.client_createIfMissing] at succeeded
    cases succeeded
  | missing executor elements looked =>
    rw [Command.client_create] at succeeded
    cases elements with
    | nil => cases succeeded
    | cons element rest => cases succeeded
  | ended other outcome looked =>
    cases succeeded
    exact looked elements rfl rfl

end

end Carousel
