/-
# Racing clients never leave a mixed cycle

However creators, removers and advancers of one cycle race, its record is missing or
holds one whole list: the one of the call that wrote last, turned as often as the
script was run since. A call that looked before somebody else replaced a longer cycle by
a shorter one meets the shorter one whole. So no advance fails for what it finds, and
each element that an advance comes back with is the one that the record stood on.

The invariant holds between any two requests. It says what the record shows, and where
every call stands. Which of the racing creators wins is left open.
-/

import Carousel.Proofs.Calls

namespace Carousel

open Deployment (Client)

/-- What may happen among clients of the cycle and bystanders: lists of elements have
fewer places than there are words, and bystanders neither write the record under the
name nor bind or note another script for the bundled one. -/
def Event.Allowed (name : String) : Event → Prop
  | .move (.start _ _ call) => call.Small
  | .move _ => True
  | .bystander request => request.Modest ∧ request.Spares name

/-- Numbers count from the back of a list whose first item is the latest. -/
theorem getElem?_reverse_cons {α : Type} (latest : α) (earlier : List α) (number : Nat) :
    (latest :: earlier).reverse[number]? =
      if number = earlier.length then some latest else earlier.reverse[number]? := by
  rw [List.reverse_cons]
  by_cases last : number = earlier.length
  · rw [if_pos last, last, ← List.length_reverse, List.getElem?_concat_length]
  · rw [if_neg last]
    rcases Nat.lt_or_gt_of_ne last with before | beyond
    · rw [List.getElem?_append_left (by rwa [List.length_reverse])]
    · rw [List.getElem?_eq_none, List.getElem?_eq_none]
      · simp only [List.length_reverse]
        omega
      · simp only [List.length_append, List.length_reverse, List.length_singleton]
        omega

/-- Putting a latest item before the items of a client, or in place of the latest of
them, changes the item with the last number only. -/
theorem getElem?_reverse_setLatest {α : Type} (lists : Nat → List α) (client : Nat)
    (latest : α) {earlier : List α}
    (kept : lists client = earlier ∨ ∃ old, lists client = old :: earlier)
    (other number : Nat) :
    (if other = client then latest :: earlier else lists other).reverse[number]? =
      if other = client ∧ number = earlier.length then some latest
      else (lists other).reverse[number]? := by
  by_cases same : other = client
  · subst same
    rw [if_pos rfl, getElem?_reverse_cons]
    by_cases last : number = earlier.length
    · rw [if_pos last, if_pos ⟨rfl, last⟩]
    · rw [if_neg last, if_neg fun both => last both.2]
      rcases kept with all | ⟨old, replaced⟩
      · rw [all]
      · rw [replaced, getElem?_reverse_cons, if_neg last]
  · rw [if_neg same, if_neg fun both => same both.1]

namespace Crowd

variable {handle : Cycle} {crowd next : Crowd} {name : String}

/-- What the record shows is altered as the marks of a request tell. Calls that were
started before carry out what they did. -/
theorem Shows.alters {before after : Option Wheel} (shows : crowd.Shows name before)
    {client number : Nat} {call : Cycle.Call} {marks : List Mark}
    (alters : Alters client number call marks before after)
    (asked : next.asked? client number = some call)
    (keeps : ∀ other number call,
      crowd.asked? other number = some call → next.asked? other number = some call)
    (extended : next.marks name = crowd.marks name ++ marks) :
    next.Shows name after := by
  have lists : ∀ other number elements,
      (crowd.asked? other number).bind Cycle.Call.elements? = some elements →
        (next.asked? other number).bind Cycle.Call.elements? = some elements := by
    intro other number elements found
    obtain ⟨call, known, lists⟩ := Option.bind_eq_some_iff.mp found
    rw [keeps _ _ _ known]
    exact lists
  cases alters with
  | nothing =>
    rw [List.append_nil] at extended
    cases before with
    | none =>
      rw [Shows, extended]
      exact shows
    | some wheel =>
      obtain ⟨earlier, writer, writing, runs, done, written, stands⟩ := shows
      exact ⟨earlier, writer, writing, runs, extended.trans done, lists _ _ _ written,
        stands⟩
  | @written elements fresh writes made =>
    obtain ⟨filled, first⟩ := Wheel.eq_of_fresh? made
    refine ⟨crowd.marks name, client, number, 0, ?_, ?_, ?_⟩
    · rw [extended, filled]
      rfl
    · rw [asked, filled]
      exact writes
    · rw [first, Nat.zero_mod]
  | removed =>
    exact ⟨crowd.marks name ++ [.removed], 0, .inr ⟨_, rfl⟩, extended.trans
      (List.append_nil _).symm⟩
  | turned wheel =>
    obtain ⟨earlier, writer, writing, runs, done, written, stands⟩ := shows
    refine ⟨earlier, writer, writing, runs + 1, ?_, lists _ _ _ written, ?_⟩
    · rw [extended, done, List.replicate_succ', List.append_assoc]
      rfl
    · show (wheel.position + 1) % _ = _
      rw [stands, Nat.mod_add_mod]
      rfl
  | vanished =>
    obtain ⟨earlier, runs, cleared, done⟩ := shows
    refine ⟨earlier, runs + 1, cleared, ?_⟩
    rw [extended, done, List.replicate_succ', List.append_assoc]

end Crowd

/-- Where the invariant of a crowd stands between any two requests. -/
structure Racing (handle : Cycle) (crowd : Crowd) : Prop where
  meets : ∃ wheel, Meets handle crowd.deployment wheel ∧ crowd.Shows handle.name wheel
  lengths : ∀ client, (crowd.asked client).length = (crowd.calls client).length
  small : ∀ client, ∀ call ∈ crowd.asked client, call.Small
  stands : ∀ client number call ending,
    crowd.asked? client number = some call → crowd.call? client number = some ending →
      Stands handle crowd.log client number
        (crowd.deployment.store.records.get? handle.name).isSome call ending

namespace Racing

variable {handle : Cycle} {crowd : Crowd}

/-- A request that spares the record keeps the invariant, whoever made it. -/
theorem keep (racing : Racing handle crowd) (request : Deployment.Request)
    (modest : request.Modest) (spares : request.Spares handle.name) :
    Racing handle
      { crowd with deployment := (Deployment.serve request crowd.deployment).2 } := by
  obtain ⟨wheel, meets, shows⟩ := racing.meets
  have kept := meets.sound.get?_serve spares
  exact
    { meets := by
        refine ⟨wheel, ⟨meets.sound.serve modest, kept.trans meets.held, meets.small⟩, ?_⟩
        cases wheel with
        | none => exact shows
        | some wheel => exact shows
      lengths := racing.lengths
      small := racing.small
      stands := by
        intro client number call ending asked called
        show Stands _ _ _ _ (Table.get? _ handle.name).isSome _ _
        rw [kept]
        exact racing.stands client number call ending asked called }

/-- Starting a call alters nothing. -/
theorem start (racing : Racing handle crowd) (client executor : Nat) {call : Cycle.Call}
    (small : call.Small) :
    Racing handle (crowd.step handle (.move (.start client executor call))) := by
  simp only [Crowd.step, Traffic.step, Crowd.askedAfter]
  by_cases busy : crowd.busy client = true
  · simp only [if_pos busy]
    exact racing
  · simp only [if_neg busy]
    have first : Stands handle crowd.log client (crowd.calls client).length
        (crowd.deployment.store.records.get? handle.name).isSome call
        (.returned (Command.client (.cycle executor handle call))) := by
      by_cases advance : call = .next
      · rw [advance, Command.client_next_eq_program]
        exact .staged executor .checking fun result same => by cases same
      · exact .started executor advance
    have asked := getElem?_reverse_setLatest crowd.asked client call (.inl rfl)
    have called := getElem?_reverse_setLatest crowd.calls client
      (.returned (Command.client (.cycle executor handle call))) (.inl rfl)
    have keeps : ∀ (other number : Nat) (older : Cycle.Call),
        (crowd.asked other).reverse[number]? = some older →
          (if other = client then call :: crowd.asked client
            else crowd.asked other).reverse[number]? = some older := by
      intro other number older known
      rw [asked, if_neg]
      · exact known
      · rintro ⟨rfl, rfl⟩
        have within := (List.getElem?_eq_some_iff.mp known).1
        rw [List.length_reverse] at within
        exact absurd within (Nat.lt_irrefl _)
    obtain ⟨wheel, meets, shows⟩ := racing.meets
    have alters : Alters client (crowd.asked client).length call [] wheel wheel :=
      .nothing wheel
    exact
      { meets := by
          refine ⟨wheel, meets, shows.alters alters ?_ keeps ?_⟩
          · exact (asked client _).trans (if_pos ⟨rfl, rfl⟩)
          · exact (List.append_nil _).symm
        lengths := by
          intro other
          have lengths := racing.lengths other
          by_cases same : other = client
          · subst same
            simp [Traffic.setCalls, lengths]
          · simp [Traffic.setCalls, same, lengths]
        small := by
          intro other older listed
          by_cases same : other = client
          · subst same
            simp only [if_pos] at listed
            rcases List.mem_cons.mp listed with rfl | before
            · exact small
            · exact racing.small other older before
          · simp only [if_neg same] at listed
            exact racing.small other older listed
        stands := by
          intro other number older ending known standing
          rw [Crowd.asked?, asked] at known
          simp only [Traffic.call?, Traffic.setCalls, called, ← racing.lengths client]
            at standing
          by_cases latest : other = client ∧ number = (crowd.asked client).length
          · rw [if_pos latest] at known standing
            cases known
            cases standing
            rw [latest.1, latest.2, racing.lengths client]
            exact first
          · rw [if_neg latest] at known standing
            exact racing.stands other number older ending known standing }

/-- The next request of a client keeps the invariant. -/
theorem proceed (racing : Racing handle crowd) (bundled : handle.script = .bundled)
    (client : Nat) : Racing handle (crowd.step handle (.move (.proceed client))) := by
  simp only [Crowd.step, Traffic.step, Crowd.askedAfter]
  cases given : crowd.calls client with
  | nil => exact racing
  | cons ending earlier =>
    obtain ⟨wheel, meets, shows⟩ := racing.meets
    have length := racing.lengths client
    rw [given] at length
    obtain ⟨call, before, listed⟩ := List.exists_cons_of_length_eq_add_one length
    have asked : crowd.asked? client earlier.length = some call := by
      rw [listed, List.length_cons, List.length_cons] at length
      rw [Crowd.asked?, listed, getElem?_reverse_cons, if_pos (by omega)]
    have called : crowd.call? client earlier.length = some ending := by
      rw [Traffic.call?, given, getElem?_reverse_cons, if_pos rfl]
    have standing := racing.stands client earlier.length call ending asked called
    have small : call.Small := by
      apply racing.small client
      rw [listed]
      exact List.mem_cons_self
    rw [meets.held, Option.isSome_map] at standing
    obtain ⟨after, proceeds⟩ := standing.steps meets bundled small
    have latest := getElem?_reverse_setLatest crowd.calls client
      (Pool.advance Deployment.serve ending crowd.deployment).1 (.inr ⟨ending, given⟩)
    dsimp only
    exact
      { meets := by
          refine ⟨after, ⟨proceeds.sound, proceeds.held, proceeds.small⟩, ?_⟩
          refine Crowd.Shows.alters shows proceeds.alters ?_ ?_ ?_
          · exact asked
          · exact fun _ _ _ => id
          · exact List.filterMap_append
        lengths := by
          intro other
          have lengths := racing.lengths other
          by_cases same : other = client
          · subst same
            rw [given] at lengths
            simp [Traffic.setCalls, lengths]
          · simp [Traffic.setCalls, same, lengths]
        small := racing.small
        stands := by
          intro other number older shown known standing
          show Stands _ _ _ _ (Table.get? _ handle.name).isSome _ _
          rw [proceeds.held, Option.isSome_map]
          simp only [Traffic.call?, Traffic.setCalls, latest] at standing
          by_cases own : other = client ∧ number = earlier.length
          · rw [if_pos own] at standing
            cases standing
            obtain ⟨rfl, rfl⟩ := own
            cases asked.symm.trans known
            exact proceeds.stands
          · rw [if_neg own] at standing
            have stood := racing.stands other number older shown known standing
            rw [meets.held, Option.isSome_map] at stood
            apply stood.mono
            intro present spared
            apply proceeds.alters.present _ present
            intro removed
            obtain ⟨served, entered, mark⟩ := List.mem_filterMap.mp removed
            exact spared served entered mark }

/-- Nothing that may happen breaks the invariant. -/
theorem step (racing : Racing handle crowd) (bundled : handle.script = .bundled)
    {event : Event} (allowed : event.Allowed handle.name) :
    Racing handle (crowd.step handle event) := by
  match event with
  | .bystander request => exact racing.keep request allowed.1 allowed.2
  | .move (.start client executor call) => exact racing.start client executor allowed
  | .move (.proceed client) => exact racing.proceed bundled client
  | .move .flush => exact racing.keep (.store .flush) trivial trivial
  | .move (.setOutage on) => exact racing.keep (.store (.setOutage on)) trivial trivial

/-- The invariant holds whatever has happened. -/
theorem run (racing : Racing handle crowd) (bundled : handle.script = .bundled)
    {events : List Event} (allowed : ∀ event ∈ events, event.Allowed handle.name) :
    Racing handle (crowd.run handle events) := by
  induction events generalizing crowd with
  | nil => exact racing
  | cons event rest ih =>
    rw [List.forall_mem_cons] at allowed
    exact ih (racing.step bundled allowed.1) allowed.2

/-- Nobody has called yet, and there is no cycle. -/
theorem idle {deployment : Deployment} (sound : deployment.Sound)
    (absent : deployment.store.records.get? handle.name = none) :
    Racing handle (.idle deployment) where
  meets := ⟨none, ⟨sound, absent, by simp⟩, [], 0, .inl rfl, rfl⟩
  lengths := by
    intro client
    rfl
  small := by
    intro client call listed
    cases listed
  stands := by
    intro client number call ending asked
    simp [Crowd.asked?, Crowd.idle] at asked

end Racing

/-- What clients that race for one cycle can rely on at any moment. -/
structure Orderly (handle : Cycle) (crowd : Crowd) : Prop where
  record : ∃ wheel : Option Wheel,
    crowd.deployment.store.records.get? handle.name = wheel.map Wheel.record ∧
      crowd.Shows handle.name wheel
  advances : ∀ client number ending,
    crowd.asked? client number = some .next → crowd.call? client number = some ending →
      Traffic.underway ending = true ∨
        ∃ result, ending = .returned (.done (result.map .optionalText)) ∧
          Accounts handle crowd.log client number result
  creations : ∀ client number elements,
    crowd.asked? client number = some (.createIfMissing elements) →
      crowd.call? client number = some (.returned (.done (.ok .unit))) →
        Looked handle crowd.log client number
          (crowd.deployment.store.records.get? handle.name).isSome

/-- **Racing leaves no mixed cycle.** Let any clients create, remove and advance the
cycle under a name that is free, with their single requests, unloadings and outages in
any order, while bystanders leave its record alone. At any moment the record is missing
or that of the list that was written last, turned as often as the script was run since;
an advance fails only for an outage or a script that was unloaded twice, and else comes
back with what the record stood on; and a creation that looked first and came back
without a failure leaves a cycle, unless it was removed since the look. -/
theorem run_orderly {deployment : Deployment} (sound : deployment.Sound) {handle : Cycle}
    (bundled : handle.script = .bundled)
    (absent : deployment.store.records.get? handle.name = none) {events : List Event}
    (allowed : ∀ event ∈ events, event.Allowed handle.name) :
    Orderly handle ((Crowd.idle deployment).run handle events) := by
  have start : Racing handle (.idle deployment) := .idle sound absent
  have racing := start.run bundled allowed
  obtain ⟨wheel, meets, shows⟩ := racing.meets
  exact
    { record := ⟨wheel, meets.held, shows⟩
      advances := by
        intro client number ending asked called
        exact (racing.stands client number _ ending asked called).accounts
      creations := by
        intro client number elements asked called
        exact (racing.stands client number _ _ asked called).looked rfl }

/-- The cycle that clients race for. -/
def lanterns : Cycle where
  name := "lanterns"

/-- Two clients look for the cycle before either writes it, and the longer list is
written last. An advance finds it, and then another client removes it and a shorter list
is written before the advance, whose script was unloaded as well, gets to run. -/
def relit : List Event :=
  [.move (.start 0 0 (.createIfMissing ["red", "amber", "green"])),
    .move (.start 1 0 (.createIfMissing ["red"])), .move (.proceed 0), .move (.proceed 1),
    .move (.proceed 1), .move (.proceed 0), .move (.start 2 1 .next), .move (.proceed 2),
    .move (.proceed 2), .move (.proceed 2), .move (.proceed 2),
    .bystander (.store (.replace "clock" [("hour", "9")])), .move .flush,
    .move (.start 1 0 .remove), .move (.proceed 1), .move (.start 0 0 (.create [])),
    .move (.start 0 0 (.create ["on", "off"])), .move (.proceed 0), .move (.proceed 2),
    .move (.proceed 2), .move (.proceed 2), .move (.proceed 2)]

theorem run_orderly_relit :
    Deployment.new.Sound ∧ Deployment.new.store.records.get? "lanterns" = none ∧
      (∀ event ∈ relit, event.Allowed "lanterns") ∧
      Orderly lanterns ((Crowd.idle .new).run lanterns relit) := by
  have absent : Deployment.new.store.records.get? "lanterns" = none := rfl
  have allowed : ∀ event ∈ relit, event.Allowed "lanterns" := by
    simp [relit, Event.Allowed, Deployment.Request.Modest, Deployment.Request.Spares,
      Cycle.Call.Small, Numeral.wordBound, UInt64.size]
  have sound : Deployment.new.Sound := Deployment.sound_holding .empty
  exact ⟨sound, absent, allowed, run_orderly sound rfl absent allowed⟩

end Carousel
