/-
# Every turn of a shared cycle is taken once

Clients that advance one cycle side by side take its elements in turn. The runs of
the script that answer an element form one sequence, whatever the order in which
the requests of the clients are served, and the sequence goes round and round the
elements of the cycle. Each call takes part in it once or not at all, and a call
that fails does not take part. An unloaded script makes a call try again, but only
because its first try took nothing.

The invariant holds between any two requests. It says where the wheel stands, what
has been handed out so far, and that what a client has got is what was handed out
to it. Nothing is promised about who gets how many turns.
-/

import Carousel.Proofs.Refinement
import Carousel.Proofs.Stages
import Mathlib.Data.Int.CardIntervalMod

namespace Carousel

/-- No call but an advance is started. -/
def Move.Advances : Move → Prop
  | .start _ _ call => call = .next
  | _ => True

namespace Traffic

/-- What has been handed out to a client, in order: the number of the call, and
the element. -/
def handoutsTo (traffic : Traffic) (client : Nat) : List (Nat × String) :=
  (traffic.handouts.filter fun handout => handout.client = client).map
    fun handout => (handout.call, handout.element)

variable {traffic : Traffic}

/-- What holds of the calls put in place, and of those of all other clients, holds
of every client's calls. -/
theorem forall_setCalls
    (property : Nat → List (Ending (Deployment.Client Outcome)) → Prop)
    {client : Nat} {calls : List (Ending (Deployment.Client Outcome))}
    (own : property client calls)
    (others : ∀ other, other ≠ client → property other (traffic.calls other)) :
    ∀ other, property other (traffic.setCalls client calls other) := by
  intro other
  rw [setCalls]
  by_cases same : other = client
  · rw [if_pos same, same]
    exact own
  · rw [if_neg same]
    exact others other same

/-! ## Texts and the numbers of their calls -/

theorem number_lt_of_mem_texts {calls : List (Ending (Deployment.Client Outcome))}
    {number : Nat} {text : String} (listed : (number, text) ∈ texts calls) :
    number < calls.length := by
  induction calls with
  | nil => cases listed
  | cons call earlier ih =>
    rw [texts, List.mem_append] at listed
    rcases listed with before | last
    · exact Nat.lt_succ_of_lt (ih before)
    · obtain ⟨_, _, same⟩ := List.mem_map.mp last
      cases same
      exact Nat.lt_succ_self _

/-- Later texts are of calls with greater numbers. -/
theorem pairwise_texts (calls : List (Ending (Deployment.Client Outcome))) :
    (texts calls).Pairwise fun first second => first.1 < second.1 := by
  induction calls with
  | nil => exact .nil
  | cons call earlier ih =>
    have last : ((text? call).toList.map fun text => (earlier.length, text)).Pairwise
        fun first second => first.1 < second.1 := by
      cases text? call with
      | none => exact .nil
      | some text => exact List.pairwise_singleton _ _
    rw [texts, List.pairwise_append]
    refine ⟨ih, last, ?_⟩
    intro first before second listed
    obtain ⟨_, _, same⟩ := List.mem_map.mp listed
    subst same
    exact number_lt_of_mem_texts before

/-- A text that is listed is what its call has come back with. -/
theorem text?_of_mem_texts {calls : List (Ending (Deployment.Client Outcome))}
    {number : Nat} {text : String} (listed : (number, text) ∈ texts calls) :
    calls.reverse[number]?.bind text? = some text := by
  induction calls with
  | nil => cases listed
  | cons call earlier ih =>
    rw [texts, List.mem_append] at listed
    rw [List.reverse_cons]
    rcases listed with before | last
    · have within := number_lt_of_mem_texts before
      rw [List.getElem?_append_left (by rwa [List.length_reverse])]
      exact ih before
    · obtain ⟨found, given, same⟩ := List.mem_map.mp last
      cases same
      rw [← List.length_reverse, List.getElem?_concat_length]
      exact Option.mem_toList.mp given

end Traffic

/-- Where the invariant of a shared cycle stands between any two requests. -/
structure Turning (handle : Cycle) (elements : List String) (traffic : Traffic) :
    Prop where
  staged : ∀ client, ∀ call ∈ traffic.calls client, Staged handle call
  sound : traffic.deployment.Sound
  held : ∃ wheel : Wheel, wheel.elements = elements ∧
    wheel.position = traffic.turns % elements.length ∧
    traffic.deployment.store.records.get? handle.name = some wheel.record
  in_order :
    traffic.handouts.map (fun handout => (handout.place, some handout.element)) =
      (List.range traffic.turns).map fun turn =>
        (some (turn % elements.length), elements[turn % elements.length]?)
  own : ∀ client, traffic.handoutsTo client = Traffic.texts (traffic.calls client)

namespace Turning

variable {handle : Cycle} {elements : List String} {traffic : Traffic}

/-- Putting an advance before calls of a client, or in place of the last of them,
leaves every call an advance. -/
theorem staged_setCalls (turning : Turning handle elements traffic) {client : Nat}
    {call : Ending (Deployment.Client Outcome)}
    {earlier : List (Ending (Deployment.Client Outcome))}
    (staged : Staged handle call) (kept : earlier ⊆ traffic.calls client) :
    ∀ other, ∀ listed ∈ traffic.setCalls client (call :: earlier) other,
      Staged handle listed := by
  apply Traffic.forall_setCalls fun _ calls => ∀ call ∈ calls, Staged handle call
  · rw [List.forall_mem_cons]
    constructor
    · exact staged
    · intro old listed
      exact turning.staged client old (kept listed)
  · intro other _
    exact turning.staged other

/-- Starting an advance hands nothing out. -/
theorem start (turning : Turning handle elements traffic) (client executor : Nat) :
    Turning handle elements (traffic.step handle (.start client executor .next)) := by
  rw [Traffic.step]
  by_cases busy : traffic.busy client = true
  · rw [if_pos busy]
    exact turning
  · rw [if_neg busy]
    exact
      { staged := turning.staged_setCalls
          ⟨executor, .checking, congrArg _ (Command.client_next_eq_program executor handle)⟩
          (List.Subset.refl _)
        sound := turning.sound
        held := turning.held
        in_order := turning.in_order
        own := by
          apply Traffic.forall_setCalls fun other calls =>
            traffic.handoutsTo other = Traffic.texts calls
          · rw [turning.own client, Traffic.texts, Command.client_next]
            exact (List.append_nil _).symm
          · intro other _
            exact turning.own other }

/-- Requests of the store's keepers hand nothing out. -/
theorem keep (turning : Turning handle elements traffic) {deployment : Deployment}
    (sound : deployment.Sound)
    (records_eq : deployment.store.records = traffic.deployment.store.records) :
    Turning handle elements { traffic with deployment := deployment } where
  staged := turning.staged
  sound := sound
  held := by
    rw [records_eq]
    exact turning.held
  in_order := turning.in_order
  own := turning.own

/-- A request that stays quiet hands nothing out. -/
theorem proceed_quiet (turning : Turning handle elements traffic) {client : Nat}
    {call : Ending (Deployment.Client Outcome)}
    {earlier : List (Ending (Deployment.Client Outcome))}
    (given : traffic.calls client = call :: earlier)
    {ended : Ending (Deployment.Client Outcome) × Deployment}
    (quiet : Quiet handle call traffic.deployment ended) :
    Turning handle elements
      { deployment := ended.2
        calls := traffic.setCalls client (ended.1 :: earlier)
        log := traffic.log ++
          Traffic.entry client earlier.length traffic.deployment call } := by
  have own := turning.own client
  rw [given] at own
  have kept : earlier ⊆ traffic.calls client := by
    rw [given]
    exact List.subset_cons_self _ _
  have nothing :
      (Traffic.entry client earlier.length traffic.deployment call).filterMap
        Served.handout? = [] :=
    List.filterMap_eq_nil_iff.mpr (quiet.nothing client earlier.length)
  have same : (traffic.log ++ Traffic.entry client earlier.length traffic.deployment
      call).filterMap Served.handout? = traffic.handouts := by
    rw [List.filterMap_append, nothing, List.append_nil, Traffic.handouts]
  exact
    { staged := turning.staged_setCalls quiet.staged kept
      sound := quiet.sound
      held := by
        rw [quiet.records_eq, Traffic.turns, Traffic.handouts, same]
        exact turning.held
      in_order := by
        rw [Traffic.turns, Traffic.handouts, same]
        exact turning.in_order
      own := by
        apply Traffic.forall_setCalls fun other calls =>
          Traffic.handoutsTo _ other = Traffic.texts calls
        · rw [Traffic.handoutsTo, Traffic.handouts, same, Traffic.texts, quiet.text_eq]
          exact own
        · intro other _
          rw [Traffic.handoutsTo, Traffic.handouts, same]
          exact turning.own other }

/-- A request that turns the wheel hands out the element that is next in order,
to the client that made it. -/
theorem proceed_turned (turning : Turning handle elements traffic) {client : Nat}
    {call : Ending (Deployment.Client Outcome)}
    {earlier : List (Ending (Deployment.Client Outcome))}
    (given : traffic.calls client = call :: earlier) {wheel : Wheel}
    (lists : wheel.elements = elements)
    (stands : wheel.position = traffic.turns % elements.length)
    {ended : Ending (Deployment.Client Outcome) × Deployment}
    (turned : Turned handle wheel call traffic.deployment ended) :
    Turning handle elements
      { deployment := ended.2
        calls := traffic.setCalls client (ended.1 :: earlier)
        log := traffic.log ++
          Traffic.entry client earlier.length traffic.deployment call } := by
  have own := turning.own client
  rw [given] at own
  have kept : earlier ⊆ traffic.calls client := by
    rw [given]
    exact List.subset_cons_self _ _
  have longer : (traffic.log ++ Traffic.entry client earlier.length traffic.deployment
      call).filterMap Served.handout? = traffic.handouts ++
        [Handout.mk client earlier.length (some wheel.position) wheel.current] := by
    rw [List.filterMap_append, turned.handed, Traffic.handouts]
  have next : (traffic.handouts ++
      [Handout.mk client earlier.length (some wheel.position) wheel.current]).length =
        traffic.turns + 1 := by
    rw [List.length_append, Traffic.turns]
    rfl
  exact
    { staged := turning.staged_setCalls turned.staged kept
      sound := turned.sound
      held := by
        refine ⟨wheel.turn, lists, ?_, ?_⟩
        · rw [Traffic.turns, Traffic.handouts, longer, next, ← Nat.mod_add_mod, ← stands,
            ← lists]
          rfl
        · rw [turned.records_eq, Table.get?_insert, if_pos rfl]
      in_order := by
        have current : elements[traffic.turns % elements.length]? = some wheel.current := by
          rw [← stands, ← lists]
          exact wheel.getElem?_position
        rw [Traffic.turns, Traffic.handouts, longer, next, List.range_succ, List.map_append,
          List.map_append, turning.in_order, List.map_singleton, List.map_singleton, stands,
          current]
      own := by
        apply Traffic.forall_setCalls fun other calls =>
          Traffic.handoutsTo _ other = Traffic.texts calls
        · rw [Traffic.handoutsTo, Traffic.handouts, longer, List.filter_append,
            List.map_append, Traffic.texts, turned.text_eq]
          rw [Traffic.texts, turned.before_none] at own
          have before : traffic.handoutsTo client = Traffic.texts earlier :=
            own.trans (List.append_nil _)
          rw [← before, Traffic.handoutsTo, List.filter_singleton]
          simp
        · intro other apart
          have untouched := turning.own other
          rw [Traffic.handoutsTo] at untouched
          rw [Traffic.handoutsTo, Traffic.handouts, longer, List.filter_append,
            List.map_append, List.filter_singleton]
          simpa [Ne.symm apart] using untouched }

/-- The next request of a client turns the wheel or stays quiet. -/
theorem proceed (turning : Turning handle elements traffic)
    (bundled : handle.script = .bundled)
    (few : elements.length < Numeral.wordBound) (client : Nat) :
    Turning handle elements (traffic.step handle (.proceed client)) := by
  rw [Traffic.step]
  cases given : traffic.calls client with
  | nil => exact turning
  | cons call earlier =>
    obtain ⟨wheel, lists, stands, held⟩ := turning.held
    have shown : traffic.deployment.store.records.get? handle.name =
        (some wheel).map Wheel.record := held
    have small : ∀ found ∈ some wheel, found.Small := by
      intro found same
      cases same
      rw [Wheel.Small, lists]
      exact few
    have staged := turning.staged client call (by rw [given]; exact List.mem_cons_self)
    obtain ⟨executor, stage, rfl⟩ := staged
    rcases Stage.advance_program executor bundled turning.sound shown small stage with
      quiet | ⟨found, same, turned⟩
    · exact turning.proceed_quiet given quiet
    · cases same
      exact turning.proceed_turned given lists stands turned

/-- Nothing that may happen breaks the invariant. -/
theorem step (turning : Turning handle elements traffic)
    (bundled : handle.script = .bundled)
    (few : elements.length < Numeral.wordBound) {move : Move}
    (advances : move.Advances) :
    Turning handle elements (traffic.step handle move) := by
  cases move with
  | start client executor call =>
    cases advances
    exact turning.start client executor
  | proceed client => exact turning.proceed bundled few client
  | flush => exact turning.keep (turning.sound.serve trivial) rfl
  | setOutage on => exact turning.keep (turning.sound.serve trivial) rfl

/-- The invariant holds whatever has happened. -/
theorem run (turning : Turning handle elements traffic)
    (bundled : handle.script = .bundled)
    (few : elements.length < Numeral.wordBound) {moves : List Move}
    (advances : ∀ move ∈ moves, move.Advances) :
    Turning handle elements (traffic.run handle moves) := by
  induction moves generalizing traffic with
  | nil => exact turning
  | cons move rest ih =>
    rw [List.forall_mem_cons] at advances
    exact ih (turning.step bundled few advances.1) advances.2

/-- A cycle that has just been created stands on its first place, and nobody has
been given anything yet. -/
theorem idle {deployment fresh : Deployment} (sound : deployment.Sound)
    {executor : Nat}
    (created : deployment.perform (.cycle executor handle (.create elements)) =
      (.returned (.ok .unit), fresh)) :
    Turning handle elements (Traffic.idle fresh) := by
  have succeeded := congrArg Prod.fst created
  obtain ⟨wheel, made, performed⟩ := Deployment.created_of_succeeded succeeded
  obtain ⟨lists, first⟩ := Wheel.eq_of_fresh? made
  have same := congrArg Prod.snd (performed.symm.trans created)
  subst same
  exact
    { staged := by
        intro client call listed
        cases listed
      sound := sound.withRecords _
      held := by
        refine ⟨wheel, lists, ?_, ?_⟩
        · rw [first]
          exact (Nat.zero_mod _).symm
        · exact (Table.get?_insert _ _ _ _).trans (if_pos rfl)
      in_order := rfl
      own := by
        intro client
        rfl }

/-- An element that was handed out is what its call has come back with. -/
theorem text?_of_mem_handouts (turning : Turning handle elements traffic)
    {handout : Handout} (listed : handout ∈ traffic.handouts) :
    (traffic.call? handout.client handout.call).bind Traffic.text? =
      some handout.element := by
  apply Traffic.text?_of_mem_texts
  rw [← turning.own handout.client]
  exact List.mem_map.mpr
    ⟨handout, List.mem_filter.mpr ⟨listed, decide_eq_true rfl⟩, rfl⟩

end Turning

/-! ## What clients can rely on -/

/-- If each client's handouts are of different calls, so are all of them. -/
theorem Handout.nodup_of_clients {handouts : List Handout}
    (apart : ∀ client, ((handouts.filter fun handout => handout.client = client).map
      Handout.call).Nodup) :
    (handouts.map fun handout => (handout.client, handout.call)).Nodup := by
  induction handouts with
  | nil => exact .nil
  | cons handout rest ih =>
    rw [List.map_cons, List.nodup_cons]
    constructor
    · intro again
      obtain ⟨other, listed, same⟩ := List.mem_map.mp again
      obtain ⟨client, call⟩ := Prod.mk.inj same
      have own := apart handout.client
      rw [List.filter_cons, if_pos (decide_eq_true rfl), List.map_cons,
        List.nodup_cons] at own
      apply own.1
      exact List.mem_map.mpr
        ⟨other, List.mem_filter.mpr ⟨listed, decide_eq_true client⟩, call⟩
    · apply ih
      intro client
      have shorter := (List.sublist_cons_self handout rest).filter
        fun handout => handout.client = client
      exact (apart client).sublist (shorter.map Handout.call)

/-- Of so many turns, each place takes its equal share, and the first places one
more. -/
theorem count_turns {places : Nat} (turns : Nat) {place : Nat} (within : place < places) :
    ((List.range turns).map fun turn => some (turn % places)).count (some place) =
      turns / places + if place < turns % places then 1 else 0 := by
  have counted := Nat.count_modEq_card turns (Nat.zero_lt_of_lt within) place
  rw [Nat.mod_eq_of_lt within] at counted
  rw [← counted, Nat.count, List.count_eq_countP, List.countP_map]
  apply List.countP_congr
  intro turn _
  simp [Nat.ModEq, Nat.mod_eq_of_lt within]

/-- What clients that advance a cycle side by side can rely on at any moment. -/
structure TakesTurns (handle : Cycle) (elements : List String) (traffic : Traffic) :
    Prop where
  in_order : ∀ (turn : Nat) (handout : Handout),
    traffic.handouts[turn]? = some handout →
      handout.place = some (turn % elements.length) ∧
      elements[turn % elements.length]? = some handout.element
  shares : ∀ place, place < elements.length →
    (traffic.handouts.map Handout.place).count (some place) =
      traffic.turns / elements.length +
        if place < traffic.turns % elements.length then 1 else 0
  current : ∃ wheel : Wheel, wheel.elements = elements ∧
    wheel.position = traffic.turns % elements.length ∧
    traffic.deployment.store.records.get? handle.name = some wheel.record
  own : ∀ client, traffic.handoutsTo client = Traffic.texts (traffic.calls client)
  once : (traffic.handouts.map fun handout => (handout.client, handout.call)).Nodup
  failed : ∀ client number fault,
    traffic.call? client number = some (.returned (.done (.error fault))) →
      ∀ handout ∈ traffic.handouts, (handout.client, handout.call) ≠ (client, number)

theorem Turning.takesTurns {handle : Cycle} {elements : List String} {traffic : Traffic}
    (turning : Turning handle elements traffic) :
    TakesTurns handle elements traffic where
  in_order := by
    intro turn handout given
    have within := (List.getElem?_eq_some_iff.mp given).1
    have both := congrArg (fun pairs => pairs[turn]?) turning.in_order
    simp only [List.getElem?_map, given, Option.map_some,
      List.getElem?_range (show turn < traffic.turns from within)] at both
    obtain ⟨place, element⟩ := Prod.mk.inj (Option.some.inj both)
    exact ⟨place, element.symm⟩
  shares := by
    intro place within
    have places := congrArg (List.map Prod.fst) turning.in_order
    rw [List.map_map, List.map_map] at places
    exact (congrArg (List.count (some place)) places).trans
      (count_turns traffic.turns within)
  current := turning.held
  own := turning.own
  once := by
    apply Handout.nodup_of_clients
    intro client
    have ascending := Traffic.pairwise_texts (traffic.calls client)
    rw [← turning.own client, Traffic.handoutsTo, List.pairwise_map] at ascending
    exact List.pairwise_map.mpr (ascending.imp Nat.ne_of_lt)
  failed := by
    intro client number fault ended handout listed same
    cases same
    have given := turning.text?_of_mem_handouts listed
    rw [ended] at given
    cases given

/-- **Every turn is taken once.** Create a cycle on a sound deployment, and let any
number of clients advance it from then on, with their single requests, unloadings
and outages in any order. At any moment the runs of the script have answered the
elements in order, over and over, the record names the next place, each client has
got what was handed out to it in the order of its calls, no call was given two
elements, and none that failed was given one. -/
theorem run_takes_turns {deployment fresh : Deployment} (sound : deployment.Sound)
    {handle : Cycle} (bundled : handle.script = .bundled) {elements : List String}
    (few : elements.length < Numeral.wordBound) {executor : Nat}
    (created : deployment.perform (.cycle executor handle (.create elements)) =
      (.returned (.ok .unit), fresh))
    {moves : List Move} (advances : ∀ move ∈ moves, move.Advances) :
    TakesTurns handle elements ((Traffic.idle fresh).run handle moves) := by
  have turning : Turning handle elements (Traffic.idle fresh) := .idle sound created
  exact (turning.run bundled few advances).takesTurns

/-- A cycle of two elements. -/
def signal : Wheel :=
  ⟨["red", "green"], 0, by decide⟩

/-- A store that holds the cycle and nothing else. -/
def signalled : Deployment :=
  .holding (Table.empty.insert "signal" signal.record)

/-- Two clients on one executor. Scripts are unloaded before the first client runs
its own, so it loads it once more and is overtaken. The second client's next call
meets an outage. -/
def crossing : List Move :=
  [.start 0 0 .next, .start 1 0 .next, .proceed 0, .proceed 1, .proceed 0, .proceed 0,
    .proceed 0, .proceed 1, .flush, .proceed 0, .proceed 0, .proceed 1,
    .setOutage true, .start 1 0 .next, .proceed 1, .setOutage false, .proceed 0,
    .proceed 0]

theorem run_takes_turns_crossing :
    ((Traffic.idle signalled).run ⟨"signal", .bundled⟩ crossing).handouts =
        [⟨1, 0, some 0, "red"⟩, ⟨0, 0, some 1, "green"⟩] ∧
      TakesTurns ⟨"signal", .bundled⟩ signal.elements
        ((Traffic.idle signalled).run ⟨"signal", .bundled⟩ crossing) := by
  have created : Deployment.new.perform
      (.cycle 0 ⟨"signal", .bundled⟩ (.create signal.elements)) =
        (.returned (.ok .unit), signalled) :=
    Deployment.perform_create (by decide) (Wheel.fresh?_cons "red" ["green"])
  have advances : ∀ move ∈ crossing, move.Advances := by
    simp [crossing, Move.Advances]
  exact ⟨by decide +kernel, run_takes_turns (Deployment.sound_holding .empty) rfl
    (by decide) created advances⟩

end Carousel
