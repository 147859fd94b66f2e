/-
# The workers of the cycle phase together

The steps of single workers add up. Whatever the schedule, the turns that were taken are
those that the workers have counted, the wheel stands where they put it, and each element
has its share of them.
-/

import Carousel.Proofs.Logbook
import Carousel.Proofs.Working

namespace Carousel

/-- Replacing one item of a list changes a sum over the list as the item changes. -/
theorem sum_map_set {α : Type} (worth : α → Nat) {items : List α} {index : Nat} {old : α}
    (found : items[index]? = some old) (new : α) :
    ((items.set index new).map worth).sum + worth old =
      (items.map worth).sum + worth new := by
  induction items generalizing index with
  | nil => cases found
  | cons item rest ih =>
    cases index with
    | zero =>
      cases found
      simp only [List.set_cons_zero, List.map_cons, List.sum_cons]
      omega
    | succ index =>
      have inner : ((rest.set index new).map worth).sum + worth old =
          (rest.map worth).sum + worth new := ih found
      simp only [List.set_cons_succ, List.map_cons, List.sum_cons]
      omega

namespace Stress

namespace CyclePhase

/-- The elements are as many as planned, and all different. -/
theorem length_elements (plan : Plan) : (elements plan).length = plan.elements.toNat := by
  rw [elements, List.length_map, List.length_range]

theorem nodup_elements (plan : Plan) : (elements plan).Nodup := by
  rw [elements]
  refine List.nodup_range.map ?_
  intro first second same
  have texts := congrArg String.toList same
  rw [String.toList_append, String.toList_append] at texts
  apply Numeral.render_injective
  exact String.ext (List.append_cancel_left texts)

/-- The turns that were taken on all shifts. -/
def turns (plan : Plan) (shifts : List Shift) : Nat :=
  (shifts.map (Shift.taken plan.calls.toNat)).sum

/-- The number of times that an element was counted on all shifts. -/
def countedBy (shifts : List Shift) (element : String) : Nat :=
  (shifts.map fun shift => shift.tally.counted element).sum

/-- Where all workers stand between any two requests, when scripts have been unloaded so
many times. -/
structure Crew (plan : Plan) (state : Deployment) (shifts : List Shift) (flushes : Nat) :
    Prop where
  sound : state.Sound
  up : ¬ state.store.outage = true
  remembers : Remembers state flushes
  stands : ∀ (worker : Nat) (shift : Shift), shifts[worker]? = some shift →
    shift.Stands plan worker flushes (HasScript state)
  wheel : ∃ wheel : Wheel, wheel.elements = elements plan ∧
    wheel.position = turns plan shifts % plan.elements.toNat ∧
    state.store.records.get? cycleName = some wheel.record
  shares : ∀ place element, (elements plan)[place]? = some element →
    countedBy shifts element = share (turns plan shifts) plan.elements.toNat place

section

variable {plan : Plan} {state after : Deployment} {shifts : List Shift} {flushes : Nat}
  {wheel : Wheel}

/-- The wheel of the cycle stands on an element, and on the one at its place only. -/
theorem current_eq_iff (lists : wheel.elements = elements plan) {place : Nat}
    {element : String} (found : (elements plan)[place]? = some element) :
    wheel.current = element ↔ wheel.position = place := by
  have current := wheel.getElem?_position
  rw [lists] at current
  constructor
  · intro same
    rw [same] at current
    have within := (List.getElem?_eq_some_iff.mp current).1
    exact List.getElem?_inj within (nodup_elements plan) |>.mp (current.trans found.symm)
  · intro same
    rw [same, found] at current
    exact (Option.some.inj current).symm

theorem current_mem (lists : wheel.elements = elements plan) :
    wheel.current ∈ elements plan := by
  have current := wheel.getElem?_position
  rw [lists] at current
  exact List.mem_of_getElem? current

theorem small_of_elements (lists : wheel.elements = elements plan) : wheel.Small := by
  rw [Wheel.Small, lists, length_elements]
  exact plan.elements.toNat_lt

/-- A step of one worker explains where all of them stand. -/
theorem Crew.stands_set (crew : Crew plan state shifts flushes) {worker more : Nat}
    {shift later : Shift} (found : shifts[worker]? = some shift)
    (stands : later.Stands plan worker more (HasScript after))
    (how : more = flushes ∧ (HasScript state → HasScript after) ∨
      worker = 0 ∧ more = flushes + 1) (other : Nat) (shown : Shift)
    (listed : (shifts.set worker later)[other]? = some shown) :
    shown.Stands plan other more (HasScript after) := by
  by_cases same : other = worker
  · subst same
    have within := (List.getElem?_eq_some_iff.mp found).1
    rw [List.getElem?_set_self within] at listed
    cases listed
    exact stands
  · rw [List.getElem?_set_ne (Ne.symm same)] at listed
    have before := crew.stands other shown listed
    rcases how with ⟨rfl, keeps⟩ | ⟨first, rfl⟩
    · exact before.mono keeps
    · apply before.unloaded
      rintro rfl
      exact same first.symm

/-- A step of one worker keeps the crew in order. -/
theorem Crew.works (crew : Crew plan state shifts flushes)
    (lists : wheel.elements = elements plan)
    (position : wheel.position = turns plan shifts % plan.elements.toNat)
    {worker : Nat} {shift later : Shift} (found : shifts[worker]? = some shift)
    (held : state.store.records.get? cycleName = some wheel.record)
    {asked : Option Exchange} (works : Works plan worker wheel state shift asked later after) :
    ∃ more, Crew plan after (shifts.set worker later) more := by
  have stands := crew.stands worker shift found
  obtain ⟨more, laterStands, remembers, how⟩ :=
    works.exists_stands stands crew.remembers (current_mem lists)
  have up : ¬ after.store.outage = true := by
    rw [works.outage_eq]
    exact crew.up
  have taken : turns plan (shifts.set worker later) + shift.taken plan.calls.toNat =
      turns plan shifts + later.taken plan.calls.toNat :=
    sum_map_set _ found later
  have counted : ∀ element,
      countedBy (shifts.set worker later) element + shift.tally.counted element =
        countedBy shifts element + later.tally.counted element :=
    fun element => sum_map_set _ found later
  refine ⟨more, works.sound crew.sound, up, remembers,
    crew.stands_set found laterStands how, ?_, ?_⟩
  · rcases works.turns_or_keeps stands.fits with
      ⟨records_eq, same, _⟩ | ⟨records_eq, one, _⟩
    · refine ⟨wheel, lists, ?_, ?_⟩
      · rw [position, show turns plan (shifts.set worker later) = turns plan shifts by omega]
      · rw [records_eq]
        exact held
    · refine ⟨wheel.turn, lists, ?_, ?_⟩
      · rw [show turns plan (shifts.set worker later) = turns plan shifts + 1 by omega,
          ← Nat.mod_add_mod, ← position, ← length_elements, ← lists]
        rfl
      · rw [records_eq, Table.get?_insert, if_pos rfl]
  · intro place element known
    have shares := crew.shares place element known
    have given := counted element
    rcases works.turns_or_keeps stands.fits with
      ⟨_, same, counts⟩ | ⟨_, one, counts⟩
    · rw [counts] at given
      rw [show turns plan (shifts.set worker later) = turns plan shifts by omega, ← shares]
      omega
    · have within : place < plan.elements.toNat := by
        rw [← length_elements]
        exact (List.getElem?_eq_some_iff.mp known).1
      rw [counts] at given
      rw [show turns plan (shifts.set worker later) = turns plan shifts + 1 by omega,
        share_succ _ within, ← position, ← shares]
      simp only [current_eq_iff lists known] at given
      omega

end

/-! ## The pool of workers -/

/-- The workers of a pool stand on the shifts, and these are in order. -/
structure Staffed (plan : Plan) (pool : Pool Deployment.interface WorkerEnd Deployment)
    (shifts : List Shift) : Prop where
  length : shifts.length = plan.threads.toNat
  clients : pool.clients =
    shifts.mapIdx fun worker shift => .returned (shift.program plan worker)
  crew : ∃ flushes, Crew plan pool.state shifts flushes

section

variable {plan : Plan} {pool : Pool Deployment.interface WorkerEnd Deployment}
  {shifts : List Shift}

/-- The next request of a worker takes it to its next shift. -/
theorem Staffed.step (staffed : Staffed plan pool shifts)
    (periodic : plan.flushEvery = some 0 → plan.calls = 0) {worker : Nat} {shift : Shift}
    (found : shifts[worker]? = some shift) :
    ∃ wheel asked later, wheel.elements = elements plan ∧
      pool.exchange? worker = asked ∧
      Works plan worker wheel pool.state shift asked later
        (pool.step Deployment.serve worker).state ∧
      Staffed plan (pool.step Deployment.serve worker) (shifts.set worker later) := by
  obtain ⟨flushes, crew⟩ := staffed.crew
  obtain ⟨wheel, lists, position, held⟩ := crew.wheel
  have able := (crew.stands worker shift found).able periodic wheel
  obtain ⟨asked, later, after, works, asks, moved⟩ :=
    exists_works worker crew.sound crew.up held (small_of_elements lists) able
  have client : pool.clients[worker]? = some (.returned (shift.program plan worker)) := by
    rw [staffed.clients, List.getElem?_mapIdx, found, Option.map_some]
  have stepped : pool.step Deployment.serve worker =
      { clients := pool.clients.set worker (.returned (later.program plan worker))
        state := after } := by
    rw [Pool.step, client]
    simp only [moved]
  rw [stepped]
  refine ⟨wheel, asked, later, lists, ?_, works, ?_, ?_,
    crew.works lists position found held works⟩
  · rw [Pool.exchange?, client, Option.bind_some, asks]
  · rw [List.length_set, staffed.length]
  · rw [staffed.clients]
    exact (List.mapIdx_set ..).symm

/-- Whoever goes next, the workers stay in order. -/
theorem Staffed.exists_step (staffed : Staffed plan pool shifts)
    (periodic : plan.flushEvery = some 0 → plan.calls = 0) (worker : Nat) :
    ∃ later, Staffed plan (pool.step Deployment.serve worker) later := by
  cases found : shifts[worker]? with
  | some shift =>
    obtain ⟨_, _, later, _, _, _, stepped⟩ := staffed.step periodic found
    exact ⟨_, stepped⟩
  | none =>
    refine ⟨shifts, ?_⟩
    rw [Pool.step, staffed.clients, List.getElem?_mapIdx, found, ← staffed.clients]
    exact staffed

end

/-- The shift on which a worker starts. -/
def Shift.first (plan : Plan) : Shift :=
  .next plan.calls.toNat 0 .empty

theorem clients_pool (plan : Plan) (state : Deployment) :
    (pool plan state).clients =
      (List.replicate plan.threads.toNat (Shift.first plan)).mapIdx fun worker shift =>
        .returned (shift.program plan worker) := by
  apply List.ext_getElem?
  intro index
  rw [pool, List.getElem?_map, List.getElem?_mapIdx, List.getElem?_replicate]
  by_cases within : index < plan.threads.toNat
  · rw [List.getElem?_range within, if_pos within, Option.map_some, Option.map_some,
      Shift.first, Shift.program_next]
    rfl
  · rw [if_neg within, List.getElem?_eq_none (by simpa using within)]
    rfl

/-- The workers start in order. -/
theorem staffed_start (plan : Plan) {state : Deployment} (sound : state.Sound)
    (up : ¬ state.store.outage = true) (forgetful : Remembers state 0) {wheel : Wheel}
    (fresh : Wheel.fresh? (elements plan) = some wheel)
    (held : state.store.records.get? cycleName = some wheel.record) :
    Staffed plan (pool plan state)
      (List.replicate plan.threads.toNat (Shift.first plan)) := by
  obtain ⟨lists, first⟩ := Wheel.eq_of_fresh? fresh
  have total : (0 : UInt64).toNat + plan.calls.toNat = plan.calls.toNat := Nat.zero_add _
  have taken : (Shift.first plan).taken plan.calls.toNat = 0 := Shift.taken_next total
  have none : turns plan (List.replicate plan.threads.toNat (Shift.first plan)) = 0 := by
    simp [turns, taken]
  have uncounted : ∀ element,
      countedBy (List.replicate plan.threads.toNat (Shift.first plan)) element = 0 := by
    intro element
    simp [countedBy, Shift.first, Tally.counted_empty]
  refine ⟨List.length_replicate, clients_pool plan state, 0, sound, up, forgetful,
    ?_, ?_, ?_⟩
  · intro worker shift found
    have same : shift = Shift.first plan :=
      List.eq_of_mem_replicate (List.mem_of_getElem? found)
    rw [same]
    apply Shift.stands_next total
    · exact fun _ => Nat.le_refl 0
    · intro element known
      cases known
    · exact fun _ _ => rfl
    · exact fun _ _ _ => Nat.le_refl 0
  · refine ⟨wheel, lists, ?_, held⟩
    rw [none, first, Nat.zero_mod]
  · intro place element known
    rw [uncounted, none, share_zero]

end CyclePhase

end Stress

end Carousel
