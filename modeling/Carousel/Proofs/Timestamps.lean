/-
# Timestamps on a clock that never goes back

The two milliseconds of each call lie between those of its neighbours: what a call
records is no less than the timestamp of the token before it, and no greater than
that of its own. So timestamps never go back, and a timestamp that two tokens share
belongs to neighbours. A third token is always later.

Whoever takes some of the tokens, in their order, sees them in order. This is why a
run from many threads counts no token out of order, whatever the threads' turns.
That run has its own loop around the same calls, so its invariant is kept apart:
every token that a worker holds has passed.
-/

import Carousel.Proofs.Journal
import Carousel.Stress.TokenPhase
import Carousel.Token.Plan

namespace Carousel

/-- The order of what calls record and of the timestamps of their tokens. -/
structure InOrder (entries : List Entry) : Prop where
  positive : ∀ entry ∈ entries, 0 < entry.recorded
  within : ∀ entry ∈ entries, entry.recorded ≤ entry.token.timestamp
  recorded_lt : entries.Pairwise fun earlier later =>
    earlier.recorded < later.recorded
  timestamp_le_recorded : entries.Pairwise fun earlier later =>
    earlier.token.timestamp ≤ later.recorded
  timestamp_le : entries.Pairwise fun earlier later =>
    earlier.token.timestamp ≤ later.token.timestamp
  timestamp_lt : ∀ (place beyond : Nat) (earlier later : Entry), place + 1 < beyond →
    entries[place]? = some earlier → entries[beyond]? = some later →
      earlier.token.timestamp < later.token.timestamp

/-- Entries of which each precedes the next are in order. -/
theorem inOrder_of_isChain {start : Entry} {entries : List Entry}
    (chain : (start :: entries).IsChain Entry.Precedes) : InOrder entries := by
  have pairwise := chain.pairwise
  rw [List.pairwise_cons] at pairwise
  obtain ⟨first, rest⟩ := pairwise
  exact
    { positive := by
        intro entry listed
        exact UInt64.lt_of_le_of_lt UInt64.zero_le (first entry listed).recorded_lt
      within := by
        intro entry listed
        exact (first entry listed).within
      recorded_lt := rest.imp fun precedes => precedes.recorded_lt
      timestamp_le_recorded := rest.imp fun precedes => precedes.timestamp_le
      timestamp_le := by
        apply rest.imp
        intro earlier later precedes
        exact UInt64.le_trans precedes.timestamp_le precedes.within
      timestamp_lt := by
        intro place beyond earlier later apart found other
        -- The entry in between is later than the one and earlier than the other.
        obtain ⟨beforeEnd, rfl⟩ := List.getElem?_eq_some_iff.mp found
        obtain ⟨inside, rfl⟩ := List.getElem?_eq_some_iff.mp other
        have middle : place + 1 < entries.length := by omega
        rw [List.pairwise_iff_getElem] at rest
        have left := rest place (place + 1) beforeEnd middle (by omega)
        have right := rest (place + 1) beyond middle inside apart
        exact UInt64.lt_of_le_of_lt left.timestamp_le
          (UInt64.lt_of_lt_of_le right.recorded_lt right.within) }

/-- An entry in front of all others. -/
def Entry.dawn : Entry :=
  ⟨0, 0, ⟨"", 0, 0⟩⟩

namespace Mint

/-- Whatever the family, nothing is recorded in it before the first call. -/
theorem last_initial (family : Nat) : (initial.family family).last = 0 := by
  cases family with
  | zero => rfl
  | succ family => rfl

/-- The journal of a fresh mint is in order, if the clock is steady. -/
theorem inOrder_journal {devices : Devices} (steady : devices.Steady)
    (patience family : Nat) (calls : List Call) :
    InOrder (journal devices patience family calls initial) := by
  have chain : (Entry.dawn :: journal devices patience family calls initial).IsChain
      Entry.Precedes :=
    journal_isChain_precedes steady housed_initial family calls
      (last_initial family).symm UInt64.zero_le (Devices.passed_zero _)
  exact inOrder_of_isChain chain

end Mint

/-- A clock is steady if its readings are listed in order. -/
theorem Devices.steady_of_listed {millis : List UInt64}
    (sorted : millis.Pairwise (· ≤ ·)) {plan : DevicePlan}
    (clock : plan.clock = .listed (millis.map Reading.time).toArray) :
    plan.devices.Steady := by
  have listed : ∀ count found,
      (plan.devices.reading count).millis? = some found → millis[count]? = some found := by
    intro count found told
    rw [DevicePlan.devices, clock] at told
    simp only [ClockPlan.reading, List.getElem?_toArray, List.getElem?_map] at told
    cases given : millis[count]? with
    | none =>
      rw [given] at told
      cases told
    | some value =>
      rw [given] at told
      exact told
  intro earlier later first second before told other
  obtain ⟨inside, firstly⟩ := List.getElem?_eq_some_iff.mp (listed earlier first told)
  obtain ⟨within, secondly⟩ := List.getElem?_eq_some_iff.mp (listed later second other)
  rcases Nat.lt_or_eq_of_le before with less | same
  · rw [← firstly, ← secondly]
    exact List.pairwise_iff_getElem.mp sorted earlier later inside within less
  · subst same
    rw [← firstly, ← secondly]
    exact UInt64.le_refl _

/-! ## Many threads -/

namespace Stress.TokenPhase

/-- No token is out of order where each is no older than those before it. -/
theorem outOfOrder_eq_zero {tokens : List Token}
    (ordered : tokens.Pairwise fun later earlier => earlier.timestamp ≤ later.timestamp) :
    outOfOrder tokens = 0 := by
  induction tokens with
  | nil => rfl
  | cons later rest ih =>
    rw [List.pairwise_cons] at ordered
    cases rest with
    | nil => rfl
    | cons earlier rest =>
      have above := ordered.1 earlier List.mem_cons_self
      rw [outOfOrder, if_neg (UInt64.not_lt.mpr above), Nat.zero_add]
      exact ih ordered.2

/-- The tokens of each worker, latest first, are in order, and all have passed. -/
structure Tidy (devices : Devices) (workshop : Workshop) : Prop where
  ordered : ∀ worker ∈ workshop.workers,
    worker.minted.Pairwise fun later earlier => earlier.timestamp ≤ later.timestamp
  passed : ∀ worker ∈ workshop.workers, ∀ token ∈ worker.minted,
    devices.Passed workshop.usage token.timestamp

variable {devices : Devices} {patience : Nat}

/-- A worker that is let to mint gets one token or none. -/
theorem mintOnce_cases {worker result : Worker} {before after : Generator}
    {usage used : Usage}
    (minted : mintOnce devices patience worker before usage =
      some (result, after, used)) :
    usage.reads ≤ used.reads ∧ (result.minted = worker.minted ∨
      ∃ found, result.minted = found.token :: worker.minted ∧
        Generator.Struck devices lockName before usage found after used) := by
  rw [mintOnce] at minted
  split at minted
  · cases minted
    exact ⟨Nat.le_refl _, .inl rfl⟩
  · obtain ⟨⟨ending, state, spent⟩, called, same⟩ := Option.map_eq_some_iff.mp minted
    obtain ⟨grown, cases⟩ := Generator.mint_cases called
    cases same
    constructor
    · exact grown
    · rcases cases with ⟨found, rfl, struck⟩ | ⟨_, unreturned⟩
      · exact .inr ⟨found, rfl, struck⟩
      · left
        rcases ending with (fault | found) | message
        · rfl
        · exact absurd rfl (unreturned found)
        · rfl

/-- Naming a worker has it mint, or does nothing if there is no such worker. -/
theorem step_cases {workshop after : Workshop} {index : Nat}
    (stepped : step devices patience workshop index = some after) :
    after = workshop ∨ ∃ worker result, worker ∈ workshop.workers ∧
      mintOnce devices patience worker workshop.generator workshop.usage =
        some (result, after.generator, after.usage) ∧
      after.workers = workshop.workers.set index result := by
  rw [TokenPhase.step] at stepped
  cases found : workshop.workers[index]? with
  | none =>
    simp only [found] at stepped
    cases stepped
    exact .inl rfl
  | some worker =>
    simp only [found] at stepped
    obtain ⟨⟨result, state, used⟩, minted, same⟩ := Option.map_eq_some_iff.mp stepped
    cases same
    exact .inr ⟨worker, result, List.mem_of_getElem? found, minted, rfl⟩

/-- What every step keeps, the whole work keeps. -/
theorem work_keeps {property : Workshop → Prop}
    (keeps : ∀ workshop after index, property workshop →
      step devices patience workshop index = some after → property after)
    {plan : Plan} {schedule : List Nat} {finished : Workshop}
    (start : property
      { workers := List.replicate plan.threads.toNat (Worker.start plan) })
    (worked : work devices patience plan schedule = some finished) : property finished := by
  have follows : ∀ (schedule : List Nat) (workshop after : Workshop), property workshop →
      follow devices patience schedule workshop = some after → property after := by
    intro schedule
    induction schedule with
    | nil =>
      intro workshop after holds followed
      cases followed
      exact holds
    | cons index rest ih =>
      intro workshop after holds followed
      obtain ⟨between, stepped, continued⟩ := Option.bind_eq_some_iff.mp followed
      exact ih between after (keeps workshop between index holds stepped) continued
  obtain ⟨scheduled, followed, continued⟩ := Option.bind_eq_some_iff.mp worked
  exact follows _ _ _ (follows _ _ _ start followed) continued

theorem Tidy.step {workshop after : Workshop} (tidy : Tidy devices workshop)
    (steady : devices.Steady) {index : Nat}
    (stepped : step devices patience workshop index = some after) :
    Tidy devices after := by
  rcases step_cases stepped with rfl | ⟨worker, result, member, minted, workers⟩
  · exact tidy
  · obtain ⟨grown, cases⟩ := mintOnce_cases minted
    have kept : ∀ token ∈ worker.minted, devices.Passed after.usage token.timestamp := by
      intro token listed
      exact (tidy.passed worker member token listed).mono grown
    have own : (result.minted.Pairwise fun later earlier =>
          earlier.timestamp ≤ later.timestamp) ∧
        ∀ token ∈ result.minted, devices.Passed after.usage token.timestamp := by
      rcases cases with same | ⟨fresh, same, struck⟩
      · rw [same]
        exact ⟨tidy.ordered worker member, kept⟩
      · obtain ⟨early, late⟩ := struck.passed steady
        rw [same, List.pairwise_cons, List.forall_mem_cons]
        refine ⟨⟨?_, tidy.ordered worker member⟩, late, kept⟩
        intro token listed
        have bound := struck.le_last (tidy.passed worker member token listed)
        exact UInt64.le_trans bound early
    exact
      { ordered := by
          intro other listed
          rw [workers] at listed
          rcases List.mem_or_eq_of_mem_set listed with old | new
          · exact tidy.ordered other old
          · rw [new]
            exact own.1
        passed := by
          intro other listed
          rw [workers] at listed
          rcases List.mem_or_eq_of_mem_set listed with old | new
          · exact fun token held => (tidy.passed other old token held).mono grown
          · rw [new]
            exact own.2 }

/-- However the workers take turns, each of them ends up with tokens in order. -/
theorem tidy_work (steady : devices.Steady) {plan : Plan} {schedule : List Nat}
    {finished : Workshop}
    (worked : work devices patience plan schedule = some finished) :
    Tidy devices finished := by
  have start : Tidy devices
      { workers := List.replicate plan.threads.toNat (Worker.start plan) } := by
    exact
      { ordered := by
          intro worker listed
          rw [List.eq_of_mem_replicate listed]
          exact .nil
        passed := by
          intro worker listed token held
          rw [List.eq_of_mem_replicate listed] at held
          cases held }
  exact work_keeps (fun _ _ _ tidy stepped => tidy.step steady stepped) start worked

/-- The judge counts what is out of order in the workers' lists. -/
theorem outOfOrder_of_judge {seen : List String} {late : Nat} {workers : List Worker}
    {report : Report} (ordered : ∀ worker ∈ workers, outOfOrder worker.minted = 0)
    (judged : judge seen late workers = .ok report) : report.outOfOrder = late := by
  induction workers generalizing seen late with
  | nil =>
    cases judged
    rfl
  | cons worker rest ih =>
    rw [List.forall_mem_cons] at ordered
    rw [judge] at judged
    split at judged
    · cases judged
    · split at judged
      · cases judged
      · have counted := ih ordered.2 judged
        rw [ordered.1] at counted
        exact counted

/-- A run that reports has found no token out of order. -/
theorem outOfOrder_run (steady : devices.Steady) {plan : Plan} {schedule : List Nat}
    {report : Report}
    (reported : run devices patience plan schedule = some (.returned (.ok report))) :
    report.outOfOrder = 0 := by
  rw [run] at reported
  split at reported
  · cases reported
  · obtain ⟨finished, worked, ended⟩ := Option.map_eq_some_iff.mp reported
    have tidy := tidy_work steady worked
    cases total : plan.totalTokens with
    | panicked message =>
      rw [total] at ended
      cases ended
    | returned total' =>
      rw [total] at ended
      cases room : Room.forTable Room.maxTextSet total'.toNat with
      | panicked message =>
        simp only [Ending.bind, room] at ended
        cases ended
      | returned made =>
        simp only [Ending.bind, room, Ending.map] at ended
        exact outOfOrder_of_judge (fun worker listed =>
          outOfOrder_eq_zero (tidy.ordered worker listed)) (Ending.returned.inj ended)

end Stress.TokenPhase

namespace Mint

open Stress

/-- **Timestamps in order.** Take any run of calls on a fresh mint, and the calls
of one family that hand out a token. On any clock, the first of them records
something, and no one records what the one before it did. On a clock that never
goes back, what they record and the timestamps of their tokens are in order,
whoever takes some of the tokens sees them in order, and a run from many threads
finds none out of order. -/
theorem timestamps_in_order (devices : Devices) (patience family : Nat)
    (calls : List Call) :
    (0 :: (journal devices patience family calls initial).map
        Entry.recorded).IsChain (· ≠ ·) ∧
      (devices.Steady →
        InOrder (journal devices patience family calls initial) ∧
        (∀ own : List Entry,
          own.Sublist (journal devices patience family calls initial) →
          own.Pairwise (fun earlier later =>
            earlier.token.timestamp ≤ later.token.timestamp) ∧
          TokenPhase.outOfOrder (own.map Entry.token).reverse = 0) ∧
        ∀ plan schedule report,
          TokenPhase.run devices patience plan schedule =
            some (.returned (.ok report)) → report.outOfOrder = 0) := by
  have chain : ((initial.family family).last ::
      (journal devices patience family calls initial).map Entry.recorded).IsChain
        (· ≠ ·) :=
    journal_isChain_ne housed_initial family calls
  rw [last_initial] at chain
  constructor
  · exact chain
  · intro steady
    have order := inOrder_journal steady patience family calls
    refine ⟨order, ?_, ?_⟩
    · intro own taken
      have sorted := order.timestamp_le.sublist taken
      constructor
      · exact sorted
      · apply TokenPhase.outOfOrder_eq_zero
        rw [List.pairwise_reverse, List.pairwise_map]
        exact sorted
    · intro plan schedule report reported
      exact TokenPhase.outOfOrder_run steady reported

/-- Three calls on a clock that reads each millisecond three times. The second has
to wait, and its sleep is interrupted. -/
def unhurried : DevicePlan where
  clock := .listed ([1, 1, 1, 2, 2, 2, 3, 3].map Reading.time).toArray
  naps := #[.interrupted]
  nonces := #[.nonce 7]
  bedding := .prepared

theorem timestamps_in_order_unhurried :
    journal unhurried.devices 9 0
        [.tryMint 0 "dock", .cloneGenerator 0, .mint 1 "gate", .tryMint 0 "dock"]
        initial =
      [⟨0, 1, ⟨"dock", 1, 7⟩⟩, ⟨1, 2, ⟨"gate", 2, 0⟩⟩, ⟨0, 3, ⟨"dock", 3, 0⟩⟩] ∧
    InOrder (journal unhurried.devices 9 0
      [.tryMint 0 "dock", .cloneGenerator 0, .mint 1 "gate", .tryMint 0 "dock"]
      initial) ∧
    TokenPhase.run unhurried.devices 9 ⟨2, 0, 1, 1, none⟩ [1, 0] =
      some (.returned (.ok ⟨2, 0⟩)) := by
  have steady : unhurried.devices.Steady := Devices.steady_of_listed (by decide) rfl
  exact ⟨by decide +kernel, ((timestamps_in_order unhurried.devices 9 0 _).2 steady).1,
    by decide +kernel⟩

end Mint

end Carousel
