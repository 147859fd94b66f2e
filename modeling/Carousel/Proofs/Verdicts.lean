/-
# How the cycle phase ends

When all workers have come to their ends, the phase adds up what they counted. If none
of them was refused, every check passes, whatever the schedule was: the counts are the
shares, no other element was counted, and the cycle resumes where it must. If one was
refused, that is what the phase complains of.
-/

import Mathlib.Algebra.Order.BigOperators.Group.List
import Carousel.Proofs.Chronicle

namespace Carousel

namespace Stress

namespace CyclePhase

open Deployment (Client)

/-! ## Workers at their ends -/

/-- What becomes of a worker at its end. -/
def Shift.outcome : Shift → WorkerEnd
  | finished tally => .returned (.ok tally)
  | _ => .returned (.error refusal)

theorem Shift.finished_or_failed {shift : Shift} (rested : shift.Rested) :
    (∃ tally, shift = .finished tally) ∨ ∃ call tally, shift = .failed call tally := by
  cases shift with
  | finished tally => exact .inl ⟨tally, rfl⟩
  | failed call tally => exact .inr ⟨call, tally, rfl⟩
  | advancing stage remaining call tally => exact rested.elim
  | flushing remaining call tally => exact rested.elim

theorem Shift.rested_of_done {plan : Plan} {worker : Nat} {shift : Shift}
    (fits : shift.Fits plan worker) {outcome : WorkerEnd}
    (done : shift.program plan worker = .done outcome) :
    shift.Rested ∧ outcome = shift.outcome := by
  cases shift with
  | finished tally =>
    cases done
    exact ⟨trivial, rfl⟩
  | failed call tally =>
    cases done
    exact ⟨trivial, rfl⟩
  | flushing remaining call tally => cases done
  | advancing stage remaining call tally =>
    obtain ⟨request, rest, asks⟩ := Stage.exists_program_eq_ask executor cycle
      (afterAdvance plan worker remaining call tally) fits.1
    rw [Shift.program, asks] at done
    cases done

/-- Whatever the schedule, the workers stay in order. -/
theorem Staffed.run {plan : Plan}
    (periodic : plan.flushEvery = some 0 → plan.calls = 0)
    {pool : Pool Deployment.interface WorkerEnd Deployment} {start : List Shift}
    (staffed : Staffed plan pool start) (schedule : List Nat) :
    ∃ shifts, Staffed plan (pool.run Deployment.serve schedule) shifts := by
  have keeps : ∀ (pool : Pool Deployment.interface WorkerEnd Deployment) index,
      (∃ shifts, Staffed plan pool shifts) →
        ∃ later, Staffed plan (pool.step Deployment.serve index) later :=
    fun _ index ⟨_, staffed⟩ => staffed.exists_step periodic index
  exact Pool.run_keeps Deployment.serve keeps ⟨start, staffed⟩ schedule

/-- If each client of a pool has ended with a result, its shift can only be an end. -/
theorem Staffed.rested {plan : Plan} {endings : List (Ending WorkerEnd)} {final : Deployment}
    {shifts : List Shift}
    (staffed : Staffed plan ⟨endings.map (Ending.map .done), final⟩ shifts) :
    (∀ shift ∈ shifts, shift.Rested) ∧
      endings = shifts.map fun shift => .returned shift.outcome := by
  obtain ⟨length, clients, flushes, crew⟩ := staffed
  have each : ∀ (index : Nat) (shift : Shift), shifts[index]? = some shift →
      shift.Rested ∧ endings[index]? = some (.returned shift.outcome) := by
    intro index shift found
    have same := congrArg (fun clients => clients[index]?) clients
    simp only [List.getElem?_map, List.getElem?_mapIdx, found, Option.map_some] at same
    obtain ⟨ending, known, done⟩ := Option.map_eq_some_iff.mp same
    cases ending with
    | panicked message => cases done
    | returned outcome =>
      have fits := (crew.stands index shift found).fits
      obtain ⟨rested, becomes⟩ :=
        Shift.rested_of_done fits (Ending.returned.inj done).symm
      exact ⟨rested, becomes ▸ known⟩
  constructor
  · intro shift listed
    obtain ⟨index, found⟩ := List.getElem?_of_mem listed
    exact (each index shift found).1
  · apply List.ext_getElem?
    intro index
    rw [List.getElem?_map]
    cases found : shifts[index]? with
    | some shift => exact (each index shift found).2
    | none =>
      have same := congrArg (fun clients => clients[index]?) clients
      simp only [List.getElem?_map, List.getElem?_mapIdx, found, Option.map_none] at same
      exact Option.map_eq_none_iff.mp same

/-- A worker at its end has finished all its advances, or its last one was refused. -/
theorem Account.recounts {plan : Plan} {state : Deployment} {log : List Line} {worker : Nat}
    {shift : Shift} {advances : List (List Line)} {current : List Line}
    (account : Account plan state log worker shift advances current)
    (rested : shift.Rested) (fits : shift.Fits plan worker) :
    Recounts plan log worker (.returned shift.outcome) := by
  obtain ⟨requests, taken, given, tells⟩ := account
  rcases Shift.finished_or_failed rested with ⟨tally, rfl⟩ | ⟨call, tally, rfl⟩
  · have none : current = [] := tells
    rw [none, List.append_nil] at requests
    exact .finished tally requests taken given
  · refine .refused requests ?_ given tells
    have one := fits.1
    have within := fits.2
    rw [taken, Shift.taken]
    omega

/-- At the ends of all workers the log tells what became of them. -/
theorem Recorded.told {plan : Plan} {endings : List (Ending WorkerEnd)} {final : Deployment}
    {shifts : List Shift} {log : List Line}
    (recorded : Recorded plan ⟨endings.map (Ending.map .done), final⟩ shifts log) :
    Told plan log endings where
  ordered := recorded.ordered.ascending
  runs := recorded.runs
  workers := by
    intro worker ending found
    obtain ⟨rested, known⟩ := recorded.staffed.rested
    rw [known, List.getElem?_map] at found
    obtain ⟨shift, listed, rfl⟩ := Option.map_eq_some_iff.mp found
    obtain ⟨flushes, crew⟩ := recorded.staffed.crew
    obtain ⟨advances, current, account⟩ := recorded.accounts worker shift listed
    exact account.recounts (rested shift (List.mem_of_getElem? listed))
      (crew.stands worker shift listed).fits

/-! ## Adding up -/

theorem countedBy_cons (shift : Shift) (rest : List Shift) (element : String) :
    countedBy (shift :: rest) element =
      shift.tally.counted element + countedBy rest element :=
  rfl

/-- The counts of a worker that finished are added to those before. -/
theorem exists_collect_finished {seen : Tally} {rest : List Shift} {tally : Tally}
    (fits : ∀ element,
      tally.counted element + countedBy (.finished seen :: rest) element < UInt64.size) :
    ∃ merged, merged.Exceeds tally seen.counted seen.keys ∧
      (∀ element, merged.counted element + countedBy rest element < UInt64.size) ∧
      collect tally ((Shift.finished seen :: rest).map fun shift =>
          .returned shift.outcome) =
        collect merged (rest.map fun shift => .returned shift.outcome) := by
  have sums : ∀ element, tally.counted element +
      countedBy (.finished seen :: rest) element =
        tally.counted element + seen.counted element + countedBy rest element := by
    intro element
    rw [countedBy_cons, Nat.add_assoc]
    rfl
  have fitsFirst : ∀ element,
      tally.counted element + listed seen.entries element < UInt64.size := by
    intro element
    have whole := fits element
    rw [sums] at whole
    exact Nat.lt_of_add_right_lt whole
  obtain ⟨merged, merges, exceeds⟩ := Tally.exists_merge seen.distinct fitsFirst
  refine ⟨merged, exceeds, ?_, ?_⟩
  · intro element
    rw [exceeds.counted]
    exact (sums element).symm.trans_lt (fits element)
  · rw [List.map_cons, Shift.outcome, collect, merges]
    rfl

/-- If no worker was refused, their counts are added up. -/
theorem exists_collect {shifts : List Shift}
    (finished : ∀ shift ∈ shifts, ∃ tally, shift = .finished tally) {tally : Tally}
    (fits : ∀ element, tally.counted element + countedBy shifts element < UInt64.size) :
    ∃ sum, collect tally (shifts.map fun shift => .returned shift.outcome) =
        .returned (.ok sum) ∧
      (∀ element, sum.counted element =
        tally.counted element + countedBy shifts element) ∧
      ∀ element ∈ sum.keys,
        element ∈ tally.keys ∨ ∃ shift ∈ shifts, element ∈ shift.tally.keys := by
  induction shifts generalizing tally with
  | nil => exact ⟨tally, rfl, fun _ => rfl, fun _ => .inl⟩
  | cons shift rest ih =>
    rw [List.forall_mem_cons] at finished
    obtain ⟨⟨seen, rfl⟩, others⟩ := finished
    obtain ⟨merged, exceeds, fitsRest, collects⟩ := exists_collect_finished fits
    obtain ⟨sum, collected, counted, keys⟩ := ih others fitsRest
    refine ⟨sum, collects.trans collected, ?_, ?_⟩
    · intro element
      rw [counted, exceeds.counted, Nat.add_assoc]
      rfl
    · intro element known
      rcases keys element known with before | ⟨shift, listed, itsOwn⟩
      · rcases exceeds.keys element before with seenHere | old
        · exact .inr ⟨_, List.mem_cons_self, seenHere⟩
        · exact .inl old
      · exact .inr ⟨shift, List.mem_cons_of_mem _ listed, itsOwn⟩

/-- If a worker was refused, the phase complains of that. -/
theorem collect_of_failed {shifts : List Shift} (rested : ∀ shift ∈ shifts, shift.Rested)
    {call : UInt64} {counted : Tally} (failed : .failed call counted ∈ shifts)
    {tally : Tally}
    (fits : ∀ element, tally.counted element + countedBy shifts element < UInt64.size) :
    collect tally (shifts.map fun shift => .returned shift.outcome) =
      .returned (.error refusal) := by
  induction shifts generalizing tally with
  | nil => cases failed
  | cons shift rest ih =>
    rw [List.forall_mem_cons] at rested
    cases shift with
    | advancing stage remaining call tally => exact rested.1.elim
    | flushing remaining call tally => exact rested.1.elim
    | failed call tally => rfl
    | finished seen =>
      obtain ⟨merged, exceeds, fitsRest, collects⟩ := exists_collect_finished fits
      rw [collects]
      apply ih rested.2 _ fitsRest
      exact (List.mem_cons.mp failed).resolve_left (by simp)

/-! ## Judging -/

/-- A plan that can be carried out: there is something to do and somebody to do it, the
number of advances is a word, the period of unloadings is not zero unless nobody gets to
one, and there is room for the record of the cycle and for the results of the workers, and
so for all that the phase lists. -/
structure Feasible (plan : Plan) : Prop where
  threads_ne : plan.threads ≠ 0
  elements_ne : plan.elements ≠ 0
  total_lt : plan.threads.toNat * plan.calls.toNat < UInt64.size
  periodic : plan.flushEvery = some 0 → plan.calls = 0
  record_fits : plan.elements.toNat + 1 ≤ Room.maxRecord
  results_fit : Room.resultBytes * plan.threads.toNat ≤ Room.maxBytes

section

variable {plan : Plan} {state : Deployment} {wheel : Wheel}

theorem Feasible.totalCalls_eq (feasible : Feasible plan) :
    plan.totalCalls = .returned (plan.threads * plan.calls) := by
  rw [Plan.totalCalls, Word.mul, if_pos feasible.total_lt]

theorem Feasible.toNat_total (feasible : Feasible plan) :
    (plan.threads * plan.calls).toNat = plan.threads.toNat * plan.calls.toNat := by
  rw [UInt64.toNat_mul]
  exact Nat.mod_eq_of_lt feasible.total_lt

/-- Advancing the cycle once more gives out the element that it stands on. -/
theorem exists_run_next (sound : state.Sound) (up : ¬ state.store.outage = true)
    (held : state.store.records.get? cycleName = some wheel.record)
    (small : wheel.Small) :
    ∃ after, after.store.outage = state.store.outage ∧
      (Deployment.operate executor cycle.next).run Deployment.serve state =
        (.returned (.ok (some wheel.current)), after) := by
  have asks := Stage.program_checking executor cycle
    (.done : Except Fault (Option String) → Client _)
  rw [Stage.program, Program.bind_done] at asks
  obtain ⟨after, became, runs⟩ :=
    sound.run_consulting executor [cycleName] [] (Stage.onAnswer cycle .done) up
  refine ⟨after, became.outage_eq, ?_⟩
  rw [asks, Deployment.run_ask_eq_resume _ (Deployment.serve_has _ _),
    Deployment.has_eq_of_up up, show state.store.records.get? cycle.name = _ from held]
  rw [wheel.advance_of_record held small] at runs
  exact runs

theorem run_remove (up : ¬ state.store.outage = true) :
    ((Deployment.operate executor cycle.remove).run Deployment.serve state).1 =
      .returned (.ok ()) := by
  have served := Deployment.serve_delete up cycleName
  have asked := Deployment.run_ask_eq_resume
    (fun answer => Deployment.operate executor (Cycle.demand (.done answer) Cycle.finish))
    served
  exact congrArg Prod.fst asked

/-- The phase passes if the cycle stands where the number of advances puts it. -/
theorem finish_eq (feasible : Feasible plan) (sound : state.Sound)
    (up : ¬ state.store.outage = true) (lists : wheel.elements = elements plan)
    {total : UInt64} (position : wheel.position = total.toNat % plan.elements.toNat)
    (held : state.store.records.get? cycleName = some wheel.record) :
    finish plan total state = .returned (.ok total) := by
  obtain ⟨after, outage_eq, advanced⟩ :=
    exists_run_next sound up held (small_of_elements lists)
  have upAfter : ¬ after.store.outage = true := by
    rw [outage_eq]
    exact up
  have current := wheel.getElem?_position
  rw [lists, position, ← UInt64.toNat_mod] at current
  have expected : Word.index (elements plan) (total % plan.elements) =
      .returned wheel.current := by
    rw [Word.index, current]
  have removed := run_remove upAfter
  simp only [finish, advanced, Ending.bind, Word.mod, if_neg feasible.elements_ne, expected,
    if_pos, removed, Ending.map]

/-- The judgement on the counts of a crew that has done all its work. -/
theorem judge_eq (feasible : Feasible plan) {shifts : List Shift} {flushes : Nat}
    (crew : Crew plan state shifts flushes)
    (all : turns plan shifts = plan.threads.toNat * plan.calls.toNat) {tally : Tally}
    (counted : ∀ element, tally.counted element = countedBy shifts element)
    (keys : ∀ element ∈ tally.keys, element ∈ elements plan) :
    judge plan tally state = .returned (.ok (plan.threads * plan.calls)) := by
  have total := feasible.toNat_total
  rw [← all] at total
  have within : (0 : UInt64).toNat + (elements plan).length ≤ plan.elements.toNat := by
    rw [length_elements, UInt64.toNat_zero, Nat.zero_add]
  have shares : ∀ place element, (elements plan)[place]? = some element →
      tally.counted element = share (plan.threads * plan.calls).toNat plan.elements.toNat
        ((0 : UInt64).toNat + place) := by
    intro place element found
    rw [counted, crew.shares place element found, total, UInt64.toNat_zero, Nat.zero_add]
  obtain ⟨left, passes, strays⟩ := exists_check (plan.threads * plan.calls)
    feasible.elements_ne (nodup_elements plan) within shares
  have none : left.keys = [] := by
    apply List.eq_nil_iff_forall_not_mem.mpr
    intro element known
    obtain ⟨before, spared⟩ := strays element known
    exact spared (keys element before)
  obtain ⟨wheel, lists, position, held⟩ := crew.wheel
  rw [← total] at position
  simp only [judge, feasible.totalCalls_eq, Ending.bind, passes, none]
  exact finish_eq feasible crew.sound crew.up lists position held

end

/-! ## Running the phase -/

section

variable {plan : Plan} {state : Deployment} {shifts : List Shift} {flushes : Nat}

theorem Crew.countedBy_le (crew : Crew plan state shifts flushes) (element : String) :
    countedBy shifts element ≤ turns plan shifts := by
  apply List.sum_le_sum
  intro shift listed
  obtain ⟨worker, found⟩ := List.getElem?_of_mem listed
  exact (crew.stands worker shift found).counted element

theorem Crew.turns_le (crew : Crew plan state shifts flushes) :
    turns plan shifts ≤ shifts.length * plan.calls.toNat := by
  rw [turns, ← List.length_map (Shift.taken plan.calls.toNat)]
  apply List.sum_le_card_nsmul
  intro taken listed
  obtain ⟨shift, member, rfl⟩ := List.mem_map.mp listed
  obtain ⟨worker, found⟩ := List.getElem?_of_mem member
  exact (crew.stands worker shift found).fits.taken_le

theorem Crew.keys (crew : Crew plan state shifts flushes) {shift : Shift}
    (listed : shift ∈ shifts) : ∀ element ∈ shift.tally.keys, element ∈ elements plan := by
  obtain ⟨worker, found⟩ := List.getElem?_of_mem listed
  exact (crew.stands worker shift found).keys

/-- If all workers have finished, all turns have been taken. -/
theorem turns_of_finished (finished : ∀ shift ∈ shifts, ∃ tally, shift = .finished tally) :
    turns plan shifts = shifts.length * plan.calls.toNat := by
  have each : ∀ shift ∈ shifts, shift.taken plan.calls.toNat = plan.calls.toNat := by
    intro shift listed
    obtain ⟨tally, rfl⟩ := finished shift listed
    rfl
  rw [turns, List.map_congr_left each, List.map_const', List.sum_replicate]
  rfl

end

/-- The deployment that the workers find: a fresh one with the cycle. -/
def started (plan : Plan) : Deployment :=
  ((Deployment.operate executor (cycle.create (elements plan))).run
    Deployment.serve .new).2

/-- The ends that the workers come to. -/
def endings (plan : Plan) (schedule : List Nat) : List (Ending WorkerEnd) :=
  ((pool plan (started plan)).complete Deployment.serve schedule).1

section

variable {plan : Plan}

/-- There are elements to make a wheel of. -/
theorem exists_fresh (elements_ne : plan.elements ≠ 0) :
    ∃ wheel, Wheel.fresh? (elements plan) = some wheel := by
  have filled : (elements plan).length ≠ 0 := by
    rw [length_elements]
    exact fun none => elements_ne (UInt64.toNat_inj.mp none)
  cases listed : elements plan with
  | nil =>
    rw [listed] at filled
    exact absurd rfl filled
  | cons element rest => exact ⟨_, Wheel.fresh?_cons element rest⟩

theorem run_create {wheel : Wheel} (fresh : Wheel.fresh? (elements plan) = some wheel) :
    (Deployment.operate executor (cycle.create (elements plan))).run
        Deployment.serve .new =
      (.returned (.ok ()),
        Deployment.holding (Table.empty.insert cycleName wheel.record)) := by
  have up : ¬ Deployment.new.store.outage = true := by decide
  have filled : ¬ (elements plan).isEmpty = true := by
    intro none
    rw [List.isEmpty_iff.mp none, Wheel.fresh?_nil] at fresh
    cases fresh
  have served := Deployment.serve_replace_of_fresh up fresh cycleName
  rw [Cycle.create, if_neg filled]
  exact Deployment.run_ask_eq_resume
    (fun answer => Deployment.operate executor (Cycle.demand (.done answer) Cycle.finish))
    served

/-- Where there is room for the record, there is room for the lists that it is made of. -/
theorem makeRoom_of_fits (record_fits : plan.elements.toNat + 1 ≤ Room.maxRecord) :
    makeRoom plan = .returned () := by
  have most : plan.elements.toNat + 1 ≤ 7 * 2 ^ 54 := record_fits
  have listed : Room.textBytes * plan.elements.toNat ≤ Room.maxBytes := by
    show 24 * plan.elements.toNat ≤ 2 ^ 64 / 2 - 1
    omega
  have fields : Room.fieldBytes * (plan.elements.toNat + 1) ≤ Room.maxBytes := by
    show 48 * (plan.elements.toNat + 1) ≤ 2 ^ 64 / 2 - 1
    omega
  simp only [makeRoom, Room.forList, Room.forTable, if_pos listed, if_pos fields,
    if_pos record_fits, Ending.bind]

/-- If there is room for the record, the workers are put to work on a deployment that
holds the wheel of the cycle. -/
theorem run_eq_work (record_fits : plan.elements.toNat + 1 ≤ Room.maxRecord)
    {wheel : Wheel} (fresh : Wheel.fresh? (elements plan) = some wheel)
    (schedule : List Nat) : run plan schedule = work plan schedule (started plan) := by
  rw [run, makeRoom_of_fits record_fits, started]
  simp only [Ending.bind, run_create fresh]

theorem staffed_started (elements_ne : plan.elements ≠ 0) :
    Staffed plan (pool plan (started plan))
      (List.replicate plan.threads.toNat (Shift.first plan)) := by
  obtain ⟨wheel, fresh⟩ := exists_fresh elements_ne
  have held : (Table.empty.insert cycleName wheel.record : Records).get? cycleName =
      some wheel.record := by
    rw [Table.get?_insert, if_pos rfl]
  have forgetful : Remembers
      (Deployment.holding (Table.empty.insert cycleName wheel.record)) 0 := by
    intro digest known
    cases known
  rw [started, run_create fresh]
  exact staffed_start plan (Deployment.sound_holding _) Bool.false_ne_true forgetful fresh
    held

/-- The requests of the workers along a schedule. -/
def log (plan : Plan) (schedule : List Nat) : List Line :=
  (pool plan (started plan)).log 0 schedule

theorem recorded_started (elements_ne : plan.elements ≠ 0) :
    Recorded plan (pool plan (started plan))
      (List.replicate plan.threads.toNat (Shift.first plan)) [] where
  staffed := staffed_started elements_ne
  ordered := Line.ordered_nil
  loaded := by
    rintro _ ⟨_, none, _⟩
    cases none
  noted := by
    obtain ⟨wheel, fresh⟩ := exists_fresh elements_ne
    intro digest known
    rw [pool, started, run_create fresh] at known
    cases known
  runs := List.forall_mem_nil _
  accounts := by
    intro worker shift found
    rw [List.eq_of_mem_replicate (List.mem_of_getElem? found)]
    exact ⟨[], [], account_next (Nat.zero_add _) rfl rfl (List.forall_mem_nil _)⟩

/-- Completing a schedule brings all workers to their ends, and the log tells how. -/
theorem Feasible.exists_recorded (feasible : Feasible plan) (schedule : List Nat) :
    ∃ longer shifts,
      (pool plan (started plan)).run Deployment.serve (schedule ++ longer) =
        ⟨(endings plan schedule).map (Ending.map .done),
          ((pool plan (started plan)).complete Deployment.serve schedule).2⟩ ∧
      Recorded plan
        ⟨(endings plan schedule).map (Ending.map .done),
          ((pool plan (started plan)).complete Deployment.serve schedule).2⟩
        shifts (log plan (schedule ++ longer)) := by
  obtain ⟨longer, ended⟩ := Pool.exists_run_eq_complete Deployment.serve
    (pool plan (started plan)) schedule
  obtain ⟨shifts, recorded⟩ :=
    (recorded_started feasible.elements_ne).run feasible.periodic (schedule ++ longer)
  rw [ended] at recorded
  exact ⟨longer, shifts, ended, recorded⟩

/-- At their ends the workers of a feasible plan stand on shifts that are in order. -/
theorem Feasible.exists_crew (feasible : Feasible plan) (schedule : List Nat) :
    ∃ shifts flushes, shifts.length = plan.threads.toNat ∧
      (∀ shift ∈ shifts, shift.Rested) ∧
      endings plan schedule = shifts.map (fun shift => .returned shift.outcome) ∧
      Crew plan ((pool plan (started plan)).complete Deployment.serve schedule).2 shifts
        flushes := by
  obtain ⟨_, shifts, _, recorded⟩ := feasible.exists_recorded schedule
  obtain ⟨rested, known⟩ := recorded.staffed.rested
  obtain ⟨flushes, crew⟩ := recorded.staffed.crew
  exact ⟨shifts, flushes, recorded.staffed.length, rested, known, crew⟩

/-- Where the workers can be listed, there is a number for them and the thread that starts
them. -/
theorem threads_lt (workers_fit : Room.workerBytes * plan.threads.toNat ≤ Room.maxBytes) :
    plan.threads.toNat + (1 : UInt64).toNat < UInt64.size := by
  have fit : 24 * plan.threads.toNat ≤ 2 ^ 64 / 2 - 1 := workers_fit
  show plan.threads.toNat + 1 < 2 ^ 64
  omega

/-- The handle of a worker takes less room than its result. -/
theorem workers_fit (results_fit : Room.resultBytes * plan.threads.toNat ≤ Room.maxBytes) :
    Room.workerBytes * plan.threads.toNat ≤ Room.maxBytes :=
  (Nat.mul_le_mul_right _ (by decide)).trans results_fit

/-- What is made of the sum of what the workers have counted. -/
theorem Feasible.run_of_collect (feasible : Feasible plan) {schedule : List Nat}
    {sum : Except Complaint Tally}
    (collects : collect .empty (endings plan schedule) = .returned sum) :
    (∀ complaint, sum = .error complaint →
        run plan schedule = .returned (.error complaint)) ∧
      ∀ tally, sum = .ok tally →
        run plan schedule = judge plan tally
          ((pool plan (started plan)).complete Deployment.serve schedule).2 := by
  obtain ⟨wheel, fresh⟩ := exists_fresh feasible.elements_ne
  rw [endings] at collects
  have listed := workers_fit feasible.results_fit
  rw [run_eq_work feasible.record_fits fresh, work, Word.add, if_pos (threads_lt listed)]
  simp only [Room.forList, if_pos listed, if_pos feasible.results_fit, Ending.bind, collects]
  constructor
  · rintro complaint rfl
    rfl
  · rintro tally rfl
    rfl

/-- What the phase comes to on a schedule. Each worker takes all its turns, unless it is
refused, and the phase passes if no worker is refused, and complains of that otherwise.
The log of all requests, up to where the workers have come to their ends, tells of each
advance that it gave out an element, unless scripts had been unloaded before each of its
two runs. -/
structure Concludes (plan : Plan) (schedule : List Nat) : Prop where
  count : (endings plan schedule).length = plan.threads.toNat
  ends : ∀ ending ∈ endings plan schedule,
    (∃ tally, ending = .returned (.returned (.ok tally))) ∨
      ending = .returned (.returned (.error refusal))
  told : ∃ longer,
    ((pool plan (started plan)).run Deployment.serve (schedule ++ longer)).clients =
        (endings plan schedule).map (Ending.map .done) ∧
      Told plan (log plan (schedule ++ longer)) (endings plan schedule)
  passes : .returned (.returned (.error refusal)) ∉ endings plan schedule →
    run plan schedule = .returned (.ok (plan.threads * plan.calls))
  complains : .returned (.returned (.error refusal)) ∈ endings plan schedule →
    run plan schedule = .returned (.error refusal)

theorem Feasible.concludes (feasible : Feasible plan) (schedule : List Nat) :
    Concludes plan schedule := by
  obtain ⟨shifts, flushes, length, rested, known, crew⟩ := feasible.exists_crew schedule
  have fits : ∀ element,
      Tally.counted .empty element + countedBy shifts element < UInt64.size := by
    intro element
    have counted := crew.countedBy_le element
    have taken := crew.turns_le
    have total := feasible.total_lt
    rw [length] at taken
    rw [Tally.counted_empty]
    omega
  refine ⟨?_, ?_, ?_, ?_, ?_⟩
  · rw [known, List.length_map, length]
  · intro ending listed
    rw [known] at listed
    obtain ⟨shift, member, rfl⟩ := List.mem_map.mp listed
    rcases Shift.finished_or_failed (rested shift member) with
      ⟨tally, rfl⟩ | ⟨call, tally, rfl⟩
    · exact .inl ⟨tally, rfl⟩
    · exact .inr rfl
  · obtain ⟨longer, _, ended, recorded⟩ := feasible.exists_recorded schedule
    exact ⟨longer, by rw [ended], recorded.told⟩
  · intro unrefused
    have finished : ∀ shift ∈ shifts, ∃ tally, shift = .finished tally := by
      intro shift member
      rcases Shift.finished_or_failed (rested shift member) with
        same | ⟨call, tally, rfl⟩
      · exact same
      · rw [known] at unrefused
        exact absurd (List.mem_map.mpr ⟨_, member, rfl⟩) unrefused
    obtain ⟨sum, collects, counted, keys⟩ := exists_collect finished fits
    rw [← known] at collects
    rw [(feasible.run_of_collect collects).2 sum rfl]
    apply judge_eq feasible crew
    · rw [turns_of_finished finished, length]
    · intro element
      rw [counted, Tally.counted_empty, Nat.zero_add]
    · intro element listed
      rcases keys element listed with none | ⟨shift, member, itsOwn⟩
      · cases none
      · exact crew.keys member element itsOwn
  · intro refused
    rw [known] at refused
    obtain ⟨shift, member, same⟩ := List.mem_map.mp refused
    rcases Shift.finished_or_failed (rested shift member) with
      ⟨tally, rfl⟩ | ⟨call, tally, rfl⟩
    · cases same
    · have collects := collect_of_failed rested member fits
      rw [← known] at collects
      exact (feasible.run_of_collect collects).1 refusal rfl

end

end CyclePhase

end Stress

end Carousel
