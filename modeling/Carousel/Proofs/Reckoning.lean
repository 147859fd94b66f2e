/-
# Which numbers of a stress run fit a word

Arguments are refused if the number of all advances is too large for a word. The phases
compute more than that from a plan: the share of each place, remainders, counts that grow
with every advance, places in the list of elements. All of it comes out right on every
schedule, and nobody has to look at the arguments again.

One number is not looked at and need not fit. All workers meet with the thread that starts
them, so there must be a number for one more than the workers, and the workers may be as
many as the largest word. Both phases then panic over that sum before any worker is started.
Every other panic of a phase is a request for room, which no arguments are refused for.
-/

import Carousel.Proofs.Refusals
import Carousel.Proofs.Timestamps

namespace Carousel

namespace Word

variable {first second : UInt64}

/-- A sum that fits a word is that sum. -/
theorem exists_add (fits : first.toNat + second.toNat < 2 ^ 64) :
    ∃ sum, add first second = .returned sum ∧
      sum.toNat = first.toNat + second.toNat := by
  refine ⟨first + second, if_pos fits, ?_⟩
  rw [UInt64.toNat_add, Nat.mod_eq_of_lt fits]

theorem add_of_overflow (overflows : 2 ^ 64 ≤ first.toNat + second.toNat) :
    add first second = .panicked "attempt to add with overflow" :=
  if_neg (Nat.not_lt.mpr overflows)

end Word

namespace Stress

variable {arguments : Arguments} {plan : Plan} {message : String}

/-! ## Putting workers to work -/

/-- Why the workers of a plan cannot be put to work: with the thread that starts them they
are more than a word can tell, or too many to be listed. -/
inductive Understaffed (plan : Plan) : String → Prop
  | uncounted (all : plan.threads.toNat + 1 = 2 ^ 64) :
    Understaffed plan "attempt to add with overflow"
  | unlisted (counted : plan.threads.toNat + 1 < 2 ^ 64)
    (many : Room.maxBytes < Room.workerBytes * plan.threads.toNat) :
    Understaffed plan "capacity overflow"

/-- What both phases do before they start a worker. -/
def Plan.muster (plan : Plan) : Ending Unit :=
  (Word.add plan.threads 1).bind fun _ =>
    Room.forList Room.workerBytes plan.threads.toNat

/-- Workers that can be listed can be counted. -/
theorem Plan.muster_of_listed
    (listed : Room.workerBytes * plan.threads.toNat ≤ Room.maxBytes) :
    plan.muster = .returned () := by
  obtain ⟨count, adds, _⟩ := Word.exists_add (CyclePhase.threads_lt listed)
  rw [Plan.muster, adds, Ending.bind, Room.forList, if_pos listed]

theorem Understaffed.muster_eq (short : Understaffed plan message) :
    plan.muster = .panicked message := by
  cases short with
  | uncounted all => rw [Plan.muster, Word.add_of_overflow all.ge, Ending.bind]
  | unlisted counted many =>
    have fits : plan.threads.toNat + (1 : UInt64).toNat < 2 ^ 64 := counted
    obtain ⟨count, adds, _⟩ := Word.exists_add fits
    rw [Plan.muster, adds, Ending.bind, Room.forList, if_neg (Nat.not_le.mpr many)]

theorem Understaffed.unique {other : String} (short : Understaffed plan message)
    (also : Understaffed plan other) : message = other :=
  Ending.panicked.inj (short.muster_eq.symm.trans also.muster_eq)

theorem Plan.listed_or_understaffed (plan : Plan) :
    Room.workerBytes * plan.threads.toNat ≤ Room.maxBytes ∨
      ∃ message, Understaffed plan message := by
  have bound := plan.threads.toNat_lt
  by_cases listed : Room.workerBytes * plan.threads.toNat ≤ Room.maxBytes
  · exact .inl listed
  · by_cases counted : plan.threads.toNat + 1 < 2 ^ 64
    · exact .inr ⟨_, .unlisted counted (Nat.not_le.mp listed)⟩
    · exact .inr ⟨_, .uncounted (by omega)⟩

theorem Understaffed.not_listed (short : Understaffed plan message) :
    ¬ Room.workerBytes * plan.threads.toNat ≤ Room.maxBytes := by
  intro listed
  have mustered := short.muster_eq
  rw [Plan.muster_of_listed listed] at mustered
  cases mustered

/-! ## Advancing -/

namespace CyclePhase

variable {schedule : List Nat}

/-- Why there is no room for the cycle: its elements or its fields are too many to be
listed, or too many for a record. -/
inductive Cramped (plan : Plan) : String → Prop
  | elements (many : Room.maxBytes < Room.textBytes * plan.elements.toNat) :
    Cramped plan "capacity overflow"
  | fields (listed : Room.textBytes * plan.elements.toNat ≤ Room.maxBytes)
    (many : Room.maxBytes < Room.fieldBytes * (plan.elements.toNat + 1)) :
    Cramped plan "capacity overflow"
  | record (listed : Room.textBytes * plan.elements.toNat ≤ Room.maxBytes)
    (fields : Room.fieldBytes * (plan.elements.toNat + 1) ≤ Room.maxBytes)
    (many : Room.maxRecord < plan.elements.toNat + 1) :
    Cramped plan "Hash table capacity overflow"

/-- Why the phase panics: there is no room for the cycle, its workers cannot be put to work,
or what they come to cannot be listed. -/
inductive Stops (plan : Plan) : String → Prop
  | cramped {message : String} (cramped : Cramped plan message) : Stops plan message
  | workers {message : String} (recorded : plan.elements.toNat + 1 ≤ Room.maxRecord)
    (short : Understaffed plan message) : Stops plan message
  | results (recorded : plan.elements.toNat + 1 ≤ Room.maxRecord)
    (listed : Room.workerBytes * plan.threads.toNat ≤ Room.maxBytes)
    (many : Room.maxBytes < Room.resultBytes * plan.threads.toNat) :
    Stops plan "capacity overflow"

theorem Cramped.makeRoom_eq (cramped : Cramped plan message) :
    makeRoom plan = .panicked message := by
  cases cramped with
  | elements many =>
    simp only [makeRoom, Room.forList, if_neg (Nat.not_le.mpr many), Ending.bind]
  | fields listed many =>
    simp only [makeRoom, Room.forList, if_pos listed, if_neg (Nat.not_le.mpr many),
      Ending.bind]
  | record listed fields many =>
    simp only [makeRoom, Room.forList, Room.forTable, if_pos listed, if_pos fields,
      if_neg (Nat.not_le.mpr many), Ending.bind]

theorem recorded_or_cramped (plan : Plan) :
    plan.elements.toNat + 1 ≤ Room.maxRecord ∨ ∃ message, Cramped plan message := by
  by_cases listed : Room.textBytes * plan.elements.toNat ≤ Room.maxBytes
  · by_cases fields : Room.fieldBytes * (plan.elements.toNat + 1) ≤ Room.maxBytes
    · by_cases recorded : plan.elements.toNat + 1 ≤ Room.maxRecord
      · exact .inl recorded
      · exact .inr ⟨_, .record listed fields (Nat.not_le.mp recorded)⟩
    · exact .inr ⟨_, .fields listed (Nat.not_le.mp fields)⟩
  · exact .inr ⟨_, .elements (Nat.not_le.mp listed)⟩

theorem work_of_understaffed (short : Understaffed plan message) (deployment : Deployment) :
    work plan schedule deployment = .panicked message := by
  have mustered := short.muster_eq
  rw [Plan.muster] at mustered
  rw [work]
  cases counted : Word.add plan.threads 1 with
  | panicked other =>
    rw [counted] at mustered
    exact congrArg Ending.panicked (Ending.panicked.inj mustered)
  | returned count =>
    rw [counted, Ending.bind] at mustered
    simp only [Ending.bind, mustered]

/-- Where there is no room for the results, the phase panics when the workers have
finished, whatever they came to. -/
theorem work_of_many_results (listed : Room.workerBytes * plan.threads.toNat ≤ Room.maxBytes)
    (many : Room.maxBytes < Room.resultBytes * plan.threads.toNat) (deployment : Deployment) :
    work plan schedule deployment = .panicked "capacity overflow" := by
  obtain ⟨count, adds, _⟩ := Word.exists_add (threads_lt listed)
  rw [work, adds]
  simp only [Ending.bind, Room.forList, if_pos listed, if_neg (Nat.not_le.mpr many)]

/-- A plan that can be carried out comes to its end without a panic. -/
theorem Feasible.run_ne_panicked (feasible : Feasible plan) :
    run plan schedule ≠ .panicked message := by
  have concludes := feasible.concludes schedule
  intro panicked
  by_cases refused : .returned (.returned (.error refusal)) ∈ endings plan schedule
  · rw [concludes.complains refused] at panicked
    cases panicked
  · rw [concludes.passes refused] at panicked
    cases panicked

theorem feasible_or_stops (accepted : Plan.ofArguments arguments = .ok plan) :
    Feasible plan ∨ ∃ message, Stops plan message := by
  rcases recorded_or_cramped plan with recorded | ⟨message, cramped⟩
  · rcases plan.listed_or_understaffed with listed | ⟨message, short⟩
    · by_cases results : Room.resultBytes * plan.threads.toNat ≤ Room.maxBytes
      · exact .inl (feasible_of_ofArguments accepted recorded results)
      · exact .inr ⟨_, .results recorded listed (Nat.not_le.mp results)⟩
    · exact .inr ⟨message, .workers recorded short⟩
  · exact .inr ⟨message, .cramped cramped⟩

theorem Stops.run_eq (stops : Stops plan message)
    (accepted : Plan.ofArguments arguments = .ok plan) :
    run plan schedule = .panicked message := by
  obtain ⟨usable, rfl⟩ := Plan.ofArguments_eq_ok_iff.mp accepted
  obtain ⟨wheel, fresh⟩ := exists_fresh (Plan.shared_elements_ne usable)
  cases stops with
  | cramped cramped => rw [run, cramped.makeRoom_eq, Ending.bind]
  | workers recorded short => rw [run_eq_work recorded fresh, work_of_understaffed short]
  | results recorded listed many =>
    rw [run_eq_work recorded fresh, work_of_many_results listed many]

/-- A plan that was made of arguments panics for these reasons only, and for each of them. -/
theorem run_eq_panicked_iff (accepted : Plan.ofArguments arguments = .ok plan) :
    run plan schedule = .panicked message ↔ Stops plan message := by
  refine ⟨fun panicked => ?_, fun stops => stops.run_eq accepted⟩
  rcases feasible_or_stops accepted with feasible | ⟨other, stops⟩
  · exact absurd panicked feasible.run_ne_panicked
  · cases panicked.symm.trans (stops.run_eq accepted)
    exact stops

/-- No worker of a pool has panicked: each stands on a shift. The number of its advance is
one of those that are planned, it has counted no element more often than it was to advance,
and all together have counted none more often than all were to advance. -/
structure InCount (plan : Plan) (pool : Pool Deployment.interface WorkerEnd Deployment)
    (shifts : List Shift) : Prop where
  clients : pool.clients =
    shifts.mapIdx fun worker shift => .returned (shift.program plan worker)
  fits : ∀ (worker : Nat) (shift : Shift), shifts[worker]? = some shift →
    shift.Fits plan worker
  counted : ∀ shift ∈ shifts, ∀ element,
    shift.tally.counted element ≤ plan.calls.toNat
  together : ∀ element,
    countedBy shifts element ≤ plan.threads.toNat * plan.calls.toNat

theorem Staffed.inCount {pool : Pool Deployment.interface WorkerEnd Deployment}
    {shifts : List Shift} (staffed : Staffed plan pool shifts) :
    InCount plan pool shifts := by
  obtain ⟨flushes, crew⟩ := staffed.crew
  refine ⟨staffed.clients, ?_, ?_, ?_⟩
  · intro worker shift found
    exact (crew.stands worker shift found).fits
  · intro shift listed element
    obtain ⟨worker, found⟩ := List.getElem?_of_mem listed
    have stands := crew.stands worker shift found
    exact (stands.counted element).trans stands.fits.taken_le
  · intro element
    have counted := crew.countedBy_le element
    have taken := crew.turns_le
    rw [staffed.length] at taken
    exact counted.trans taken

/-- Whether an unloading is due is told by the period. -/
theorem exists_flushDue_iff (periodic : plan.flushEvery ≠ some 0) (worker : Nat)
    (call : UInt64) :
    ∃ due, flushDue plan worker call = .returned due ∧
      (due = true ↔ worker = 0 ∧
        ∃ period, plan.flushEvery = some period ∧ period.toNat ∣ call.toNat) := by
  obtain ⟨due, tells⟩ := exists_flushDue periodic worker call
  refine ⟨due, tells, ?_⟩
  cases due with
  | true => exact iff_of_true rfl (period_dvd_of_flushDue tells)
  | false =>
    refine iff_of_false Bool.false_ne_true ?_
    rintro ⟨rfl, period, every, divides⟩
    exact not_dvd_of_flushDue every tells divides

/-- The element at which the cycle resumes is in the list. -/
theorem exists_index_elements (elements_ne : plan.elements ≠ 0) (total : UInt64) :
    ∃ place, Word.mod total plan.elements = .returned place ∧
      Word.index (elements plan) place = .returned
        ("e" ++ Numeral.render (total.toNat % plan.elements.toNat)) := by
  have positive : 0 < plan.elements.toNat := UInt64.pos_iff_ne_zero.mpr elements_ne
  have within := Nat.mod_lt total.toNat positive
  refine ⟨total % plan.elements, if_neg elements_ne, ?_⟩
  rw [Word.index, UInt64.toNat_mod, elements, List.getElem?_map, List.getElem?_range within]
  rfl

end CyclePhase

/-! ## Minting -/

namespace TokenPhase

variable {devices : Devices} {patience : Nat} {schedule : List Nat}

/-- Why the phase panics: its workers cannot be put to work, or they came to their ends and
there is no room to compare all tokens. -/
inductive Stops (devices : Devices) (patience : Nat) (plan : Plan) (schedule : List Nat) :
    String → Prop
  | workers {message : String} (short : Understaffed plan message) :
    Stops devices patience plan schedule message
  | texts (listed : Room.workerBytes * plan.threads.toNat ≤ Room.maxBytes)
    {finished : Workshop} (worked : work devices patience plan schedule = some finished)
    (many : Room.maxTextSet < plan.threads.toNat * plan.tokensPerThread.toNat) :
    Stops devices patience plan schedule "Hash table capacity overflow"

theorem run_of_understaffed (short : Understaffed plan message) :
    run devices patience plan schedule = some (.panicked message) := by
  have mustered := short.muster_eq
  rw [Plan.muster] at mustered
  simp only [run, mustered]

/-- Where the workers can be listed, only the room for all tokens can be missing. -/
theorem run_eq_panicked_iff_of_listed
    (listed : Room.workerBytes * plan.threads.toNat ≤ Room.maxBytes) {total : UInt64}
    (multiplies : plan.totalTokens = .returned total) :
    run devices patience plan schedule = some (.panicked message) ↔
      (∃ finished, work devices patience plan schedule = some finished) ∧
        Room.maxTextSet < total.toNat ∧ message = "Hash table capacity overflow" := by
  have mustered := Plan.muster_of_listed listed
  rw [Plan.muster] at mustered
  simp only [run, mustered, multiplies]
  cases work devices patience plan schedule with
  | none => simp
  | some finished =>
    by_cases fits : total.toNat ≤ Room.maxTextSet
    · simp [Ending.bind, Ending.map, Room.forTable, fits, Nat.not_lt.mpr fits]
    · simp [Ending.bind, Ending.map, Room.forTable, fits, Nat.not_le.mp fits, eq_comm]

/-- A plan that was made of arguments panics for these reasons only, and for each of them.
The number of all tokens is not among them. -/
theorem run_eq_panicked_iff (accepted : Plan.ofArguments arguments = .ok plan) :
    run devices patience plan schedule = some (.panicked message) ↔
      Stops devices patience plan schedule message := by
  obtain ⟨usable, rfl⟩ := Plan.ofArguments_eq_ok_iff.mp accepted
  obtain ⟨total, multiplies, product, _⟩ := (Plan.promises_shared usable).totalTokens
  rcases (Plan.shared arguments).listed_or_understaffed with listed | ⟨other, short⟩
  · rw [run_eq_panicked_iff_of_listed listed multiplies, product]
    constructor
    · rintro ⟨⟨finished, worked⟩, many, rfl⟩
      exact .texts listed worked many
    · intro stops
      cases stops with
      | workers short => exact absurd listed short.not_listed
      | texts _ worked many => exact ⟨⟨_, worked⟩, many, rfl⟩
  · rw [run_of_understaffed short]
    constructor
    · rintro ⟨⟩
      exact .workers short
    · intro stops
      cases stops with
      | workers also => rw [short.unique also]
      | texts listed => exact absurd listed short.not_listed

/-- Each worker of a plan has minted what is not left of its share. -/
structure Rationed (plan : Plan) (workshop : Workshop) : Prop where
  count : workshop.workers.length = plan.threads.toNat
  share : ∀ worker ∈ workshop.workers,
    worker.minted.length + worker.remaining = plan.tokensPerThread.toNat

theorem length_minted_of_mintOnce {worker result : Worker} {before after : Generator}
    {usage used : Usage}
    (minted : mintOnce devices patience worker before usage =
      some (result, after, used)) :
    result.minted.length + result.remaining =
      worker.minted.length + worker.remaining := by
  rw [mintOnce] at minted
  split at minted
  · cases minted
    rfl
  · rename_i able
    obtain ⟨⟨ending, state, spent⟩, _, same⟩ := Option.map_eq_some_iff.mp minted
    cases same
    cases Generator.insist ending with
    | panicked message => rfl
    | returned found =>
      have more : worker.remaining ≠ 0 := fun none => able (.inl none)
      simp only [List.length_cons]
      omega

theorem Rationed.step {workshop after : Workshop} (rationed : Rationed plan workshop)
    {index : Nat} (stepped : step devices patience workshop index = some after) :
    Rationed plan after := by
  rcases step_cases stepped with rfl | ⟨worker, result, member, minted, workers⟩
  · exact rationed
  · refine ⟨?_, ?_⟩
    · rw [workers, List.length_set, rationed.count]
    · intro other listed
      rw [workers] at listed
      rcases List.mem_or_eq_of_mem_set listed with old | rfl
      · exact rationed.share other old
      · rw [length_minted_of_mintOnce minted]
        exact rationed.share worker member

/-- However the workers take turns, none of them mints more than its share. -/
theorem rationed_work {finished : Workshop}
    (worked : work devices patience plan schedule = some finished) :
    Rationed plan finished := by
  have start : Rationed plan
      { workers := List.replicate plan.threads.toNat (Worker.start plan) } := by
    refine ⟨List.length_replicate, ?_⟩
    intro worker listed
    rw [List.eq_of_mem_replicate listed]
    exact Nat.zero_add _
  exact work_keeps (fun _ _ _ rationed stepped => rationed.step stepped) start worked

/-- What is counted for each worker, and no more often than it has minted, is no more in all
than what all were to mint. -/
theorem Rationed.sum_le {workshop : Workshop} (rationed : Rationed plan workshop)
    (worth : Worker → Nat) (bounded : ∀ worker, worth worker ≤ worker.minted.length) :
    (workshop.workers.map worth).sum ≤
      plan.threads.toNat * plan.tokensPerThread.toNat := by
  rw [← rationed.count, ← List.length_map worth]
  apply List.sum_le_card_nsmul
  intro counted listed
  obtain ⟨worker, member, rfl⟩ := List.mem_map.mp listed
  have share := rationed.share worker member
  have within := bounded worker
  omega

theorem outOfOrder_le_length (tokens : List Token) :
    outOfOrder tokens ≤ tokens.length := by
  induction tokens with
  | nil => exact Nat.le_refl 0
  | cons later rest ih =>
    cases rest with
    | nil => exact Nat.zero_le _
    | cons earlier rest =>
      rw [outOfOrder, List.length_cons]
      split <;> omega

end TokenPhase

/-! ## Both phases -/

/-- What the phases make of the numbers of a plan. The number of all advances and that of
all tokens are words, and so is the share of the advances that each place has. The cycle
resumes at an element that is there, and whether an unloading is due can always be told.
No worker's counts and no sum of them are more than there is to count. -/
structure Reckons (plan : Plan) : Prop where
  totalCalls : ∃ total, plan.totalCalls = .returned total ∧
    total.toNat = plan.threads.toNat * plan.calls.toNat
  totalTokens : ∃ total, plan.totalTokens = .returned total ∧
    total.toNat = plan.threads.toNat * plan.tokensPerThread.toNat
  expectedCount : ∀ total place, ∃ expected,
    CyclePhase.expectedCount total plan.elements place = .returned expected ∧
      expected.toNat = share total.toNat plan.elements.toNat place.toNat
  resumes : ∀ total : UInt64, ∃ place, Word.mod total plan.elements = .returned place ∧
    Word.index (CyclePhase.elements plan) place =
      .returned ("e" ++ Numeral.render (total.toNat % plan.elements.toNat))
  flushDue : ∀ worker call, ∃ due, CyclePhase.flushDue plan worker call = .returned due ∧
    (due = true ↔ worker = 0 ∧
      ∃ period, plan.flushEvery = some period ∧ period.toNat ∣ call.toNat)
  advances : ∀ schedule, ∃ shifts, CyclePhase.InCount plan
    ((CyclePhase.pool plan (CyclePhase.started plan)).run Deployment.serve schedule) shifts
  mints : ∀ devices patience schedule finished,
    TokenPhase.work devices patience plan schedule = some finished →
      (finished.workers.map fun worker => worker.minted.length).sum ≤
          plan.threads.toNat * plan.tokensPerThread.toNat ∧
        (finished.workers.map fun worker => TokenPhase.outOfOrder worker.minted).sum ≤
          plan.threads.toNat * plan.tokensPerThread.toNat

theorem reckons_shared (usable : Usable arguments) : Reckons (Plan.shared arguments) := by
  have promises := Plan.promises_shared usable
  have elements_ne := Plan.shared_elements_ne usable
  have periodic := Plan.shared_flushEvery_ne arguments
  refine ⟨promises.totalCalls, ?_,
    fun total => CyclePhase.exists_expectedCount total elements_ne,
    CyclePhase.exists_index_elements elements_ne, CyclePhase.exists_flushDue_iff periodic,
    ?_, ?_⟩
  · obtain ⟨total, multiplies, product, _⟩ := promises.totalTokens
    exact ⟨total, multiplies, product⟩
  · intro schedule
    obtain ⟨shifts, staffed⟩ := (CyclePhase.staffed_started elements_ne).run
      (fun never => absurd never periodic) schedule
    exact ⟨shifts, staffed.inCount⟩
  · intro devices patience schedule finished worked
    have rationed := TokenPhase.rationed_work worked
    exact ⟨rationed.sum_le _ fun _ => Nat.le_refl _,
      rationed.sum_le _ fun worker => TokenPhase.outOfOrder_le_length worker.minted⟩

namespace Plan

/-- **Accepted arguments make numbers that fit, but for one.** All that the phases compute
from the plan comes out right, on every schedule, except for the number of all workers and
the thread that starts them: that one exists exactly if the workers are fewer than the
largest word. A phase panics exactly where that number does not exist, or where there is no
room for a list or a set. -/
theorem reckons_and_panics_iff (accepted : ofArguments arguments = .ok plan) :
    Reckons plan ∧
    ((∃ count, Word.add plan.threads 1 = .returned count ∧
        count.toNat = plan.threads.toNat + 1) ↔
      plan.threads.toNat + 1 < 2 ^ 64) ∧
    (∀ schedule message,
      CyclePhase.run plan schedule = .panicked message ↔ CyclePhase.Stops plan message) ∧
    ∀ devices patience schedule message,
      TokenPhase.run devices patience plan schedule = some (.panicked message) ↔
        TokenPhase.Stops devices patience plan schedule message := by
  refine ⟨?_, ?_, fun schedule message => CyclePhase.run_eq_panicked_iff accepted,
    fun devices patience schedule message => TokenPhase.run_eq_panicked_iff accepted⟩
  · obtain ⟨usable, rfl⟩ := ofArguments_eq_ok_iff.mp accepted
    exact reckons_shared usable
  · constructor
    · rintro ⟨count, _, more⟩
      rw [← more]
      exact count.toNat_lt
    · exact fun counted => Word.exists_add counted

/-- As many advances as a word can tell, with an unloading after each one of the first
worker, and as many tokens. -/
def brimming : Arguments where
  threads := 0xFFFFFFFF
  calls := 0x100000001
  elements := 3
  tokens := 0xFFFFFFFFFFFFFFFF
  flushEvery := 1

theorem reckons_and_panics_iff_brimming :
    ofArguments brimming = .ok (shared brimming) ∧ Reckons (shared brimming) ∧
      ∀ schedule message, CyclePhase.run (shared brimming) schedule ≠ .panicked message := by
  have accepted : ofArguments brimming = .ok (shared brimming) := rfl
  obtain ⟨reckons, _, stops, _⟩ := reckons_and_panics_iff accepted
  refine ⟨accepted, reckons, ?_⟩
  intro schedule message panicked
  cases (stops schedule message).mp panicked with
  | cramped cramped =>
    cases cramped with
    | elements many | fields _ many | record _ _ many => exact absurd many (by decide)
  | workers _ short => exact short.not_listed (by decide)
  | results _ _ many => exact absurd many (by decide)

/-- As many workers as a word can tell, with an advance and a token each. -/
def crowd : Arguments where
  threads := 0xFFFFFFFFFFFFFFFF
  calls := 1
  elements := 1
  tokens := 0xFFFFFFFFFFFFFFFF
  flushEvery := 0

/-- Not all arguments that are accepted make numbers that fit. -/
theorem crowd_uncounted :
    ofArguments crowd = .ok (shared crowd) ∧
      Word.add (shared crowd).threads 1 = .panicked "attempt to add with overflow" ∧
      (∀ schedule, CyclePhase.run (shared crowd) schedule =
        .panicked "attempt to add with overflow") ∧
      ∀ devices patience schedule, TokenPhase.run devices patience (shared crowd) schedule =
        some (.panicked "attempt to add with overflow") := by
  have accepted : ofArguments crowd = .ok (shared crowd) := rfl
  have short : Understaffed (shared crowd) "attempt to add with overflow" := .uncounted rfl
  refine ⟨accepted, rfl, ?_, ?_⟩
  · intro schedule
    exact (CyclePhase.run_eq_panicked_iff accepted).mpr (.workers (by decide) short)
  · intro devices patience schedule
    exact TokenPhase.run_of_understaffed short

end Plan

end Stress

end Carousel
