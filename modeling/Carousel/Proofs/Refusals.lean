/-
# When a worker of the cycle phase can be refused

An executor loads a script that the store does not know and runs it once more, and no
more than once. So a worker is refused if the scripts are unloaded before each of its
two runs. The first worker unloads the scripts while others are at work, and it can do so
at any moment: if it does so at least twice and there is another worker, there is a
schedule on which that worker is refused. Otherwise no schedule can do it.
-/

import Carousel.Proofs.Plans
import Carousel.Proofs.Verdicts

namespace Carousel

namespace Stress

namespace CyclePhase

/-- The number of times that the first worker unloads the scripts. It is never refused,
and gets to no period at all where the period may be zero. -/
def unloadings (plan : Plan) : Nat :=
  match plan.flushEvery with
  | none => 0
  | some period => plan.calls.toNat / period.toNat

/-! ## Schedules that refuse nobody -/

/-- A worker that was refused is not the first one, and has met two unloadings. -/
theorem Crew.two_le_unloadings {plan : Plan} {state : Deployment} {shifts : List Shift}
    {flushes : Nat} (crew : Crew plan state shifts flushes)
    (periodic : plan.flushEvery = some 0 → plan.calls = 0) {worker : Nat} {call : UInt64}
    {tally : Tally} (failed : shifts[worker]? = some (.failed call tally)) :
    worker ≠ 0 ∧ 2 ≤ unloadings plan := by
  have stands := crew.stands worker _ failed
  obtain ⟨other, twice⟩ := stands.explained
  obtain ⟨positive, within⟩ := stands.fits
  refine ⟨other, ?_⟩
  have filled : 0 < shifts.length :=
    Nat.zero_lt_of_lt (List.getElem?_eq_some_iff.mp failed).1
  have first := crew.stands 0 _ (List.getElem?_eq_getElem filled)
  cases every : plan.flushEvery with
  | none =>
    have never := first.never rfl every
    omega
  | some period =>
    have periods := (first.periods rfl period every).trans first.fits.taken_le
    have some : 0 < period.toNat := by
      apply Nat.pos_of_ne_zero
      intro zero
      have none : plan.calls = 0 :=
        periodic (every.trans (congrArg Option.some (UInt64.toNat_inj.mp zero)))
      rw [none, UInt64.toNat_zero] at within
      omega
    rw [unloadings, every]
    apply (Nat.le_div_iff_mul_le some).mpr
    rw [Nat.mul_comm]
    exact (Nat.mul_le_mul_left _ (twice.trans (Nat.le_add_right _ _))).trans periods

/-- Nobody is refused if there is nobody but the first worker, or if that one unloads
the scripts less than twice. -/
theorem Feasible.not_mem_endings {plan : Plan} (feasible : Feasible plan)
    (safe : plan.threads = 1 ∨ unloadings plan < 2) (schedule : List Nat) :
    .returned (.returned (.error refusal)) ∉ endings plan schedule := by
  intro refused
  obtain ⟨shifts, flushes, length, rested, known, crew⟩ := feasible.exists_crew schedule
  rw [known] at refused
  obtain ⟨shift, member, same⟩ := List.mem_map.mp refused
  obtain ⟨worker, found⟩ := List.getElem?_of_mem member
  rcases Shift.finished_or_failed (rested shift member) with
    ⟨tally, rfl⟩ | ⟨call, tally, rfl⟩
  · cases same
  · obtain ⟨other, twice⟩ := crew.two_le_unloadings feasible.periodic found
    rcases safe with alone | seldom
    · have within := (List.getElem?_eq_some_iff.mp found).1
      rw [length, alone, UInt64.toNat_one] at within
      omega
    · omega

/-! ## What a schedule can reach -/

/-- Some schedule takes the workers to the shifts, and the deployment to the state. -/
def Reached (plan : Plan) (state : Deployment) (shifts : List Shift) : Prop :=
  ∃ schedule, ((pool plan (started plan)).run Deployment.serve schedule).state = state ∧
    Staffed plan ((pool plan (started plan)).run Deployment.serve schedule) shifts

section

variable {plan : Plan} {state : Deployment} {shifts : List Shift} {worker remaining : Nat}
  {call : UInt64} {tally : Tally}

theorem Feasible.reached (feasible : Feasible plan) :
    Reached plan (started plan)
      (List.replicate plan.threads.toNat (Shift.first plan)) :=
  ⟨[], rfl, staffed_started feasible.elements_ne⟩

theorem Reached.exists_stands (reached : Reached plan state shifts) {shift : Shift}
    (found : shifts[worker]? = some shift) :
    ∃ flushes, shift.Stands plan worker flushes (HasScript state) := by
  obtain ⟨_, rfl, staffed⟩ := reached
  obtain ⟨flushes, crew⟩ := staffed.crew
  exact ⟨flushes, crew.stands worker shift found⟩

/-- Each worker can go next. -/
theorem Reached.step (reached : Reached plan state shifts)
    (periodic : plan.flushEvery = some 0 → plan.calls = 0) {shift : Shift}
    (found : shifts[worker]? = some shift) :
    ∃ wheel asked later after, Works plan worker wheel state shift asked later after ∧
      Reached plan after (shifts.set worker later) := by
  obtain ⟨schedule, rfl, staffed⟩ := reached
  obtain ⟨wheel, asked, later, _, _, works, stepped⟩ := staffed.step periodic found
  refine ⟨wheel, asked, later, _, works, schedule ++ [worker], ?_, ?_⟩
  · rw [Pool.run_append]
    rfl
  · rw [Pool.run_append]
    exact stepped

/-- A worker that was refused complains of it when all have finished. -/
theorem Reached.exists_mem_endings (reached : Reached plan state shifts) (worker : Nat)
    (failed : shifts[worker]? = some (.failed call tally)) :
    ∃ schedule, .returned (.returned (.error refusal)) ∈ endings plan schedule := by
  obtain ⟨schedule, _, staffed⟩ := reached
  refine ⟨schedule, Pool.mem_drain_of_done _ ?_ _⟩
  apply List.mem_of_getElem? (i := worker)
  rw [staffed.clients, List.getElem?_mapIdx, failed]
  rfl

end

/-! ## Going on alone -/

/-- The greatest number of requests that can follow the next one of an advance. -/
def left : Stage → Nat
  | .checking => 7
  | .consulting => 6
  | .loading => 5
  | .noting => 4
  | .running => 3
  | .reloading => 2
  | .renoting => 1
  | .rerunning => 0
  | .settled _ => 0

/-- The next run of the script in an advance. -/
def nextRun : Stage → Stage
  | .reloading | .renoting | .rerunning => .rerunning
  | .settled result => .settled result
  | _ => .running

section

variable {wheel : Option Wheel} {before after : Deployment} {stage following : Stage}
  {exchange : Exchange}

theorem left_lt_of_leads
    (leads : Stage.Leads executor cycle wheel before stage exchange following after)
    (pending : ∀ result, following ≠ .settled result) : left following < left stage := by
  cases leads with
  | missing | vanished | turned | refusedAgain | hasFailed | loadFailed | evalFailed =>
    exact absurd rfl (pending _)
  | _ => decide

theorem nextRun_of_leads
    (leads : Stage.Leads executor cycle wheel before stage exchange following after)
    (pending : ∀ result, following ≠ .settled result) (idle : ¬ stage.Runs) :
    nextRun following = nextRun stage := by
  cases leads with
  | missing | vanished | turned | refusedAgain | hasFailed | loadFailed | evalFailed =>
    exact absurd rfl (pending _)
  | refused => exact absurd (.inl rfl) idle
  | _ => rfl

theorem nextRun_of_runs (runs : stage.Runs) : nextRun stage = stage := by
  rcases runs with rfl | rfl
  · rfl
  · rfl

end

/-- An unloading is due wherever a period ends. -/
theorem not_dvd_of_flushDue {plan : Plan} {period call : UInt64}
    (every : plan.flushEvery = some period)
    (tells : flushDue plan 0 call = .returned false) : ¬ period.toNat ∣ call.toNat := by
  intro divides
  simp only [flushDue, if_pos, every, Word.mod] at tells
  split at tells
  · cases tells
  · have rest : call % period = 0 := by
      apply UInt64.toNat_inj.mp
      rw [UInt64.toNat_mod]
      exact Nat.mod_eq_zero_of_dvd divides
    rw [rest] at tells
    cases tells

section

variable {plan : Plan} {state : Deployment} {shifts : List Shift} {remaining : Nat}
  {call : UInt64} {tally : Tally} {stage : Stage}
  (periodic : plan.flushEvery = some 0 → plan.calls = 0)

include periodic

/-- A worker that goes on alone gets to its next run of the script. -/
theorem Reached.exists_runs (reached : Reached plan state shifts) (worker : Nat)
    (found : shifts[worker]? = some (.advancing stage remaining call tally)) :
    ∃ after, Reached plan after
      (shifts.set worker (.advancing (nextRun stage) remaining call tally)) := by
  induction more : left stage using Nat.strong_induction_on generalizing state shifts stage
    with
  | _ more ih =>
    obtain ⟨within, same⟩ := List.getElem?_eq_some_iff.mp found
    by_cases runs : stage.Runs
    · rw [nextRun_of_runs runs, ← same, List.set_getElem_self]
      exact ⟨state, reached⟩
    · obtain ⟨wheel, asked, later, after, works, stepped⟩ := reached.step periodic found
      cases works with
      | idle rested => exact rested.elim
      | refused => exact absurd (.inr rfl) runs
      | takes ran => exact absurd ran runs
      | takesLast ran => exact absurd ran runs
      | goes leads pending =>
        have fewer := left_lt_of_leads leads pending
        rw [more] at fewer
        have final := ih _ fewer stepped (List.getElem?_set_self within) rfl
        rw [List.set_set, nextRun_of_leads leads pending runs] at final
        exact final

/-- The first worker takes an element if it goes on alone. -/
theorem Reached.exists_taken (reached : Reached plan state shifts)
    (found : shifts[0]? = some (.advancing stage remaining call tally)) :
    ∃ after due counted, flushDue plan 0 call = .returned due ∧
      Reached plan after (shifts.set 0
        (if due then .flushing remaining call counted
        else .next remaining call counted)) := by
  induction more : left stage using Nat.strong_induction_on generalizing state shifts stage
    with
  | _ more ih =>
    obtain ⟨within, same⟩ := List.getElem?_eq_some_iff.mp found
    obtain ⟨wheel, asked, later, after, works, stepped⟩ := reached.step periodic found
    cases works with
    | idle rested => exact rested.elim
    | takes _ _ _ _ _ early => exact ⟨_, false, _, early, stepped⟩
    | takesLast _ _ _ _ _ due => exact ⟨_, true, _, due, stepped⟩
    | refused =>
      -- Nobody but the first worker itself could have unloaded the script.
      obtain ⟨_, stands⟩ := stepped.exists_stands (List.getElem?_set_self within)
      exact absurd rfl stands.explained.1
    | goes leads pending =>
      have fewer := left_lt_of_leads leads pending
      rw [more] at fewer
      have final := ih _ fewer stepped (List.getElem?_set_self within) rfl
      simp only [List.set_set] at final
      exact final

/-- The first worker unloads the scripts once more if it goes on alone, not later than
where any period ends that is still to come. -/
theorem Reached.exists_unloads {period : UInt64} (every : plan.flushEvery = some period)
    {goal : Nat} (ends : period.toNat ∣ goal) (planned : goal ≤ plan.calls.toNat)
    (reached : Reached plan state shifts)
    (found : shifts[0]? = some (.next remaining call tally))
    (total : call.toNat + remaining = plan.calls.toNat) (early : call.toNat < goal) :
    ∃ after remaining call tally,
      Reached plan after (shifts.set 0 (.next remaining call tally)) ∧
        call.toNat + remaining = plan.calls.toNat ∧ call.toNat ≤ goal ∧
        ¬ HasScript after := by
  -- The induction is on the advances up to the goal; an earlier period may end before.
  induction gap : goal - call.toNat generalizing state shifts remaining call tally with
  | zero => omega
  | succ gap ih =>
    obtain ⟨within, _⟩ := List.getElem?_eq_some_iff.mp found
    cases remaining with
    | zero => omega
    | succ remaining =>
      have next := Shift.toNat_next total
      have totalNext : (call + 1).toNat + remaining = plan.calls.toNat := by omega
      obtain ⟨after, due, counted, tells, taken⟩ := reached.exists_taken periodic found
      cases due with
      | true =>
        obtain ⟨wheel, asked, later, unloaded, works, stepped⟩ :=
          taken.step periodic (List.getElem?_set_self within)
        cases works with
        | idle rested => exact rested.elim
        | flushes =>
          rw [List.set_set] at stepped
          exact ⟨_, _, _, _, stepped, totalNext, by omega, Bool.false_ne_true⟩
      | false =>
        have apart : (call + 1).toNat ≠ goal := by
          intro same
          exact not_dvd_of_flushDue every tells (same ▸ ends)
        have final := ih taken (List.getElem?_set_self within) totalNext (by omega)
          (by omega)
        simp only [List.set_set] at final
        exact final

/-- A first run where the script is not loaded is followed by another load. -/
theorem Reached.exists_reloading (reached : Reached plan state shifts) (worker : Nat)
    (found : shifts[worker]? = some (.advancing .running remaining call tally))
    (unloaded : ¬ HasScript state) :
    ∃ after, Reached plan after
      (shifts.set worker (.advancing .reloading remaining call tally)) := by
  obtain ⟨wheel, asked, later, after, works, stepped⟩ := reached.step periodic found
  cases works with
  | idle rested => exact rested.elim
  | takes _ loaded => exact absurd loaded unloaded
  | takesLast _ loaded => exact absurd loaded unloaded
  | goes leads pending =>
    cases leads with
    | refused => exact ⟨_, stepped⟩
    | _ => exact absurd rfl (pending _)

/-- A second run where the script is not loaded is refused for good. -/
theorem Reached.exists_failed (reached : Reached plan state shifts) (worker : Nat)
    (found : shifts[worker]? = some (.advancing .rerunning remaining call tally))
    (unloaded : ¬ HasScript state) :
    ∃ after, Reached plan after (shifts.set worker (.failed call tally)) := by
  obtain ⟨wheel, asked, later, after, works, stepped⟩ := reached.step periodic found
  cases works with
  | idle rested => exact rested.elim
  | takes _ loaded => exact absurd loaded unloaded
  | takesLast _ loaded => exact absurd loaded unloaded
  | refused => exact ⟨_, stepped⟩
  | goes leads pending =>
    cases leads with
    | _ => exact absurd rfl (pending _)

end

/-! ## A schedule that refuses somebody -/

/-- The first period ends early enough for another one to end after it. -/
theorem exists_period {plan : Plan} (twice : 2 ≤ unloadings plan) :
    ∃ period, plan.flushEvery = some period ∧ 0 < period.toNat ∧
      2 * period.toNat ≤ plan.calls.toNat := by
  rw [unloadings] at twice
  cases every : plan.flushEvery with
  | none =>
    rw [every] at twice
    cases twice
  | some period =>
    rw [every] at twice
    have some : 0 < period.toNat := by
      apply Nat.pos_of_ne_zero
      intro zero
      simp only [zero, Nat.div_zero] at twice
      omega
    exact ⟨period, rfl, some, (Nat.le_div_iff_mul_le some).mp twice⟩

/-- If the first worker unloads the scripts twice, it can do so in front of both runs of
another worker. -/
theorem Feasible.exists_mem_endings {plan : Plan} (feasible : Feasible plan)
    (others : plan.threads ≠ 1) (twice : 2 ≤ unloadings plan) :
    ∃ schedule, .returned (.returned (.error refusal)) ∈ endings plan schedule := by
  obtain ⟨period, every, positive, fits⟩ := exists_period twice
  have periodic := feasible.periodic
  obtain ⟨more, threads⟩ : ∃ more, plan.threads.toNat = more + 2 := by
    have some : plan.threads.toNat ≠ 0 := fun zero =>
      feasible.threads_ne (UInt64.toNat_inj.mp zero)
    have several : plan.threads.toNat ≠ 1 := fun one => others (UInt64.toNat_inj.mp one)
    exact ⟨plan.threads.toNat - 2, by omega⟩
  obtain ⟨remaining, calls⟩ : ∃ remaining, plan.calls.toNat = remaining + 1 :=
    ⟨plan.calls.toNat - 1, by omega⟩
  have first : Shift.first plan = .advancing .checking remaining (0 + 1) .empty := by
    rw [Shift.first, calls]
    rfl
  have start : Reached plan (started plan)
      (.next plan.calls.toNat 0 .empty :: .advancing .checking remaining (0 + 1) .empty ::
        List.replicate more (Shift.first plan)) := by
    have reached := feasible.reached
    rw [threads, List.replicate_succ, List.replicate_succ] at reached
    rw [← first]
    exact reached
  have total : (0 : UInt64).toNat + plan.calls.toNat = plan.calls.toNat := Nat.zero_add _
  -- The second worker gets in front of its first run, and the first one unloads.
  obtain ⟨_, ready⟩ := start.exists_runs periodic 1 rfl
  obtain ⟨_, _, _, _, once, totalOnce, early, gone⟩ :=
    ready.exists_unloads periodic every (Nat.dvd_refl _) (by omega) rfl total positive
  -- The second worker loads the script again, and the first one unloads it again.
  obtain ⟨_, refused⟩ := once.exists_reloading periodic 1 rfl gone
  obtain ⟨_, reloaded⟩ := refused.exists_runs periodic 1 rfl
  obtain ⟨_, _, _, _, twice, _, _, goneAgain⟩ :=
    reloaded.exists_unloads periodic every (Nat.dvd_mul_left _ 2) fits rfl totalOnce
      (by omega)
  obtain ⟨_, failed⟩ := twice.exists_failed periodic 1 rfl goneAgain
  exact failed.exists_mem_endings 1 rfl

/-! ## The phase on all schedules -/

/-- The plans that are made of arguments can be carried out, unless the record of the
cycle or the results of the workers take too much room. -/
theorem feasible_of_ofArguments {arguments : Arguments} {plan : Plan}
    (accepted : Plan.ofArguments arguments = .ok plan)
    (record_fits : plan.elements.toNat + 1 ≤ Room.maxRecord)
    (results_fit : Room.resultBytes * plan.threads.toNat ≤ Room.maxBytes) :
    Feasible plan := by
  obtain ⟨usable, rfl⟩ := Plan.ofArguments_eq_ok_iff.mp accepted
  exact
    { threads_ne := UInt64.pos_iff_ne_zero.mp usable.threads_pos
      elements_ne := Plan.shared_elements_ne usable
      total_lt := usable.calls_fit
      periodic := fun zero => absurd zero (Plan.shared_flushEvery_ne arguments)
      record_fits
      results_fit }

/-- **A plan that can be carried out** comes to its end on every schedule: each worker
takes all its turns or is refused, and the phase passes if nobody is refused. Every advance
gives out an element, but for the last one of a worker that is refused: there the scripts
were unloaded before each of its two runs. Nobody is ever refused if the first worker is
alone, or unloads the scripts less than twice; and otherwise there is a schedule on which
somebody is. -/
theorem concludes_and_passes_iff {plan : Plan} (feasible : Feasible plan) :
    (∀ schedule, Concludes plan schedule) ∧
      ((∀ schedule, run plan schedule = .returned (.ok (plan.threads * plan.calls))) ↔
        plan.threads = 1 ∨ unloadings plan < 2) := by
  refine ⟨feasible.concludes, ?_, ?_⟩
  · intro passes
    by_cases alone : plan.threads = 1
    · exact .inl alone
    · rcases Nat.lt_or_ge (unloadings plan) 2 with seldom | twice
      · exact .inr seldom
      · obtain ⟨schedule, refused⟩ := feasible.exists_mem_endings alone twice
        have complains := (feasible.concludes schedule).complains refused
        rw [passes schedule] at complains
        cases complains
  · intro safe schedule
    exact (feasible.concludes schedule).passes (feasible.not_mem_endings safe schedule)

/-- Two workers that advance a cycle of one element twice each, the scripts being
unloaded after every advance of the first one. -/
def pair : Plan where
  threads := 2
  calls := 2
  elements := 1
  tokensPerThread := 1
  flushEvery := some 1

theorem feasible_pair : Feasible pair := by
  constructor <;> decide

theorem concludes_and_passes_iff_pair :
    Feasible pair ∧ (∀ schedule, Concludes pair schedule) ∧
      ((∀ schedule, run pair schedule = .returned (.ok (pair.threads * pair.calls))) ↔
        pair.threads = 1 ∨ unloadings pair < 2) :=
  ⟨feasible_pair, concludes_and_passes_iff feasible_pair⟩

/-- Whether the phase passes depends on the schedule, and on the period of unloadings. A
period of zero is not ruled out by the type of plans, and lists can be too long. -/
theorem pair_refused :
    run pair [1, 1, 1, 1, 0, 0, 0, 0, 1, 1, 1, 0, 0, 0, 0, 1] =
        .returned (.error refusal) ∧
      run { pair with threads := 1, calls := 1, flushEvery := some 0 } [] =
        .returned (.error .workerPanicked) ∧
      run { pair with elements := 9223372036854775808 } [] =
        .panicked "capacity overflow" := by
  have fresh : Wheel.fresh? (elements pair) = some ⟨["e0"], 0, Nat.zero_lt_one⟩ := rfl
  have unperiodic : Wheel.fresh?
      (elements { pair with threads := 1, calls := 1, flushEvery := some 0 }) =
        some ⟨["e0"], 0, Nat.zero_lt_one⟩ := rfl
  refine ⟨?_, ?_, rfl⟩
  · rw [run_eq_work (by decide) fresh, started, run_create fresh]
    decide +kernel
  · rw [run_eq_work (by decide) unperiodic, started, run_create unperiodic]
    decide +kernel

end CyclePhase

end Stress

end Carousel
