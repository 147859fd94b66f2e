/-
# What the workers of the cycle phase keep up

The workers advance one cycle, and only the first one unloads scripts. Between any two
requests the wheel of the cycle stands where the number of turns that all workers have
taken puts it, and the counts of an element add up to its share of these turns.

Whether an advance can be refused twice is a matter of how often scripts have been
unloaded. A worker that is about to run the script after it was told that the script was
unknown has met one unloading, and must have met another one if the script is not loaded
now. The first worker never does, since nobody else unloads.
-/

import Carousel.Proofs.Shifts

namespace Carousel

namespace Stress

namespace CyclePhase

/-- The bundled script is loaded. -/
def HasScript (state : Deployment) : Prop :=
  state.store.loaded.contains Script.bundledDigest = true

/-! ## What holds of one worker -/

/-- What must be the case in front of a request of an advance, if scripts have been
unloaded so many times. -/
def Awaits (worker flushes : Nat) (loaded : Prop) : Stage → Prop
  | .noting | .running => loaded ∨ 1 ≤ flushes
  | .reloading => 1 ≤ flushes
  | .renoting | .rerunning => 1 ≤ flushes ∧ (loaded ∨ worker ≠ 0 ∧ 2 ≤ flushes)
  | _ => True

namespace Shift

/-- The number of turns that were taken on a shift. -/
def taken (calls : Nat) : Shift → Nat
  | advancing _ _ call _ => call.toNat - 1
  | flushing _ call _ => call.toNat
  | finished _ => calls
  | failed call _ => call.toNat - 1

/-- The number of unloadings that are due at once. -/
def due : Shift → Nat
  | flushing _ _ _ => 1
  | _ => 0

/-- The numbers of a shift fit the plan. Only the first worker unloads. -/
def Fits (plan : Plan) (worker : Nat) : Shift → Prop
  | advancing stage remaining call _ =>
    (∀ result, stage ≠ .settled result) ∧ 1 ≤ call.toNat ∧
      call.toNat + remaining = plan.calls.toNat
  | flushing remaining call _ =>
    worker = 0 ∧ 1 ≤ call.toNat ∧ call.toNat + remaining = plan.calls.toNat
  | finished _ => True
  | failed call _ => 1 ≤ call.toNat ∧ call.toNat ≤ plan.calls.toNat

/-- What must be the case for a shift to stand where it does. -/
def Explained (worker flushes : Nat) (loaded : Prop) : Shift → Prop
  | advancing stage _ _ _ => Awaits worker flushes loaded stage
  | failed _ _ => worker ≠ 0 ∧ 2 ≤ flushes
  | _ => True

/-- The shift of a worker, when scripts have been unloaded so many times. -/
structure Stands (plan : Plan) (worker flushes : Nat) (loaded : Prop) (shift : Shift) :
    Prop where
  fits : shift.Fits plan worker
  counted : ∀ element, shift.tally.counted element ≤ shift.taken plan.calls.toNat
  keys : ∀ element ∈ shift.tally.keys, element ∈ elements plan
  explained : shift.Explained worker flushes loaded
  never : worker = 0 → plan.flushEvery = none → flushes + shift.due = 0
  periods : worker = 0 → ∀ period, plan.flushEvery = some period →
    period.toNat * (flushes + shift.due) ≤ shift.taken plan.calls.toNat

end Shift

section

variable {plan : Plan} {worker flushes : Nat} {loaded still : Prop} {shift : Shift}

theorem Awaits.mono {stage : Stage} (awaits : Awaits worker flushes loaded stage)
    (keeps : loaded → still) : Awaits worker flushes still stage := by
  cases stage with
  | noting | running => exact Or.imp_left keeps awaits
  | renoting | rerunning => exact ⟨awaits.1, awaits.2.imp_left keeps⟩
  | _ => exact awaits

/-- One more unloading explains even more, except to the worker that unloads. -/
theorem Awaits.unloaded {stage : Stage} (awaits : Awaits worker flushes loaded stage)
    (other : worker ≠ 0) : Awaits worker (flushes + 1) still stage := by
  cases stage with
  | noting | running => exact .inr (Nat.le_add_left 1 flushes)
  | reloading => exact Nat.le_add_left 1 flushes
  | renoting | rerunning =>
    exact ⟨Nat.le_add_left 1 flushes, .inr ⟨other, Nat.succ_le_succ awaits.1⟩⟩
  | _ => trivial

namespace Shift

theorem Stands.mono (stands : shift.Stands plan worker flushes loaded)
    (keeps : loaded → still) : shift.Stands plan worker flushes still where
  fits := stands.fits
  counted := stands.counted
  keys := stands.keys
  explained := by
    have explained := stands.explained
    cases shift with
    | advancing stage remaining call tally => exact Awaits.mono explained keeps
    | _ => exact explained
  never := stands.never
  periods := stands.periods

/-- Other workers than the first are not held up by an unloading. -/
theorem Stands.unloaded (stands : shift.Stands plan worker flushes loaded)
    (other : worker ≠ 0) : shift.Stands plan worker (flushes + 1) still where
  fits := stands.fits
  counted := stands.counted
  keys := stands.keys
  explained := by
    have explained := stands.explained
    cases shift with
    | advancing stage remaining call tally => exact Awaits.unloaded explained other
    | failed call tally => exact ⟨explained.1, Nat.le_succ_of_le explained.2⟩
    | _ => trivial
  never := fun first => absurd first other
  periods := fun first => absurd first other

/-- A shift that is explained can go on. -/
theorem Stands.able (stands : shift.Stands plan worker flushes loaded)
    (periodic : plan.flushEvery = some 0 → plan.calls = 0) (wheel : Wheel) :
    shift.Able plan wheel := by
  cases shift with
  | advancing stage remaining call tally =>
    obtain ⟨pending, positive, total⟩ := stands.fits
    have counted : tally.counted wheel.current ≤ call.toNat - 1 :=
      stands.counted wheel.current
    have bound : plan.calls.toNat < UInt64.size := plan.calls.toNat_lt
    refine ⟨pending, by omega, ?_⟩
    intro zero
    rw [periodic zero, UInt64.toNat_zero] at total
    omega
  | _ => trivial

theorem Fits.taken_le (fits : shift.Fits plan worker) :
    shift.taken plan.calls.toNat ≤ plan.calls.toNat := by
  cases shift with
  | advancing stage remaining call tally =>
    have total := fits.2.2
    rw [taken]
    omega
  | flushing remaining call tally =>
    have total := fits.2.2
    rw [taken]
    omega
  | finished tally => exact Nat.le_refl _
  | failed call tally => exact (Nat.sub_le _ _).trans fits.2

/-! ### The shift after an advance -/

section

variable {remaining : Nat} {call : UInt64} {tally : Tally}

@[simp]
theorem tally_next : (next remaining call tally).tally = tally := by
  cases remaining with
  | zero => rfl
  | succ remaining => rfl

@[simp]
theorem due_next : (next remaining call tally).due = 0 := by
  cases remaining with
  | zero => rfl
  | succ remaining => rfl

theorem toNat_next {more : Nat} (total : call.toNat + (more + 1) = plan.calls.toNat) :
    (call + 1).toNat = call.toNat + 1 := by
  have bound := plan.calls.toNat_lt
  rw [UInt64.toNat_add, UInt64.toNat_one]
  exact Nat.mod_eq_of_lt (by omega)

theorem taken_next (total : call.toNat + remaining = plan.calls.toNat) :
    (next remaining call tally).taken plan.calls.toNat = call.toNat := by
  cases remaining with
  | zero => exact total.symm
  | succ remaining => rw [next, taken, toNat_next total, Nat.add_sub_cancel]

theorem fits_next (total : call.toNat + remaining = plan.calls.toNat) :
    (next remaining call tally).Fits plan worker := by
  cases remaining with
  | zero => trivial
  | succ remaining =>
    have following := toNat_next total
    refine ⟨?_, by omega, by omega⟩
    intro result same
    cases same

theorem stands_next (total : call.toNat + remaining = plan.calls.toNat)
    (counted : ∀ element, tally.counted element ≤ call.toNat)
    (keys : ∀ element ∈ tally.keys, element ∈ elements plan)
    (never : worker = 0 → plan.flushEvery = none → flushes = 0)
    (periods : worker = 0 → ∀ period, plan.flushEvery = some period →
      period.toNat * flushes ≤ call.toNat) :
    (next remaining call tally).Stands plan worker flushes loaded where
  fits := fits_next total
  counted := by
    rw [tally_next, taken_next total]
    exact counted
  keys := by
    rw [tally_next]
    exact keys
  explained := by
    cases remaining with
    | zero => trivial
    | succ remaining => trivial
  never := by
    rw [due_next]
    exact never
  periods := by
    rw [due_next, taken_next total]
    exact periods

end

end Shift

/-- An unloading is due only to the first worker, and only where a period ends. -/
theorem period_dvd_of_flushDue {call : UInt64}
    (due : flushDue plan worker call = .returned true) :
    worker = 0 ∧ ∃ period, plan.flushEvery = some period ∧ period.toNat ∣ call.toNat := by
  rw [flushDue] at due
  by_cases first : worker = 0
  · rw [if_pos first] at due
    cases every : plan.flushEvery with
    | none =>
      rw [every] at due
      cases due
    | some period =>
      simp only [every, Word.mod] at due
      split at due
      · cases due
      · have rest : call % period = 0 := by simpa [Ending.map] using due
        refine ⟨first, period, rfl, Nat.dvd_of_mod_eq_zero ?_⟩
        rw [← UInt64.toNat_mod, rest, UInt64.toNat_zero]
  · rw [if_neg first] at due
    cases due

/-! ## What one step of one worker leaves -/

section

variable {wheel : Wheel} {before after : Deployment} {later : Shift}
  {asked : Option Exchange}

/-- An executor remembers the script only after it was loaded. -/
def Remembers (state : Deployment) (flushes : Nat) : Prop :=
  ∀ digest, (state.cache executor).get? Script.bundledName = some digest →
    HasScript state ∨ 1 ≤ flushes

theorem Works.sound (works : Works plan worker wheel before shift asked later after)
    (sound : before.Sound) : after.Sound := by
  cases works with
  | goes leads => exact leads.sound sound
  | takes => exact sound.withRecords _
  | takesLast => exact sound.withRecords _
  | flushes => exact sound.serve trivial
  | _ => exact sound

theorem Works.outage_eq (works : Works plan worker wheel before shift asked later after) :
    after.store.outage = before.store.outage := by
  cases works with
  | goes leads =>
    cases leads with
    | _ => rfl
  | _ => rfl

/-- A step turns the wheel and takes the element that it stood on, or leaves the records
and all counts as they are. -/
theorem Works.turns_or_keeps (works : Works plan worker wheel before shift asked later after)
    (fits : shift.Fits plan worker) :
    (after.store.records = before.store.records ∧
        later.taken plan.calls.toNat = shift.taken plan.calls.toNat ∧
        ∀ element, later.tally.counted element = shift.tally.counted element) ∨
      (after.store.records =
          before.store.records.insert cycleName wheel.turn.record ∧
        later.taken plan.calls.toNat = shift.taken plan.calls.toNat + 1 ∧
        ∀ element, later.tally.counted element =
          shift.tally.counted element + if wheel.current = element then 1 else 0) := by
  cases works with
  | idle => exact .inl ⟨rfl, rfl, fun _ => rfl⟩
  | refused => exact .inl ⟨rfl, rfl, fun _ => rfl⟩
  | goes leads pending =>
    left
    cases leads with
    | turned => exact absurd rfl (pending _)
    | _ => exact ⟨rfl, rfl, fun _ => rfl⟩
  | flushes remaining call tally =>
    left
    refine ⟨rfl, Shift.taken_next fits.2.2, ?_⟩
    rw [Shift.tally_next]
    exact fun _ => rfl
  | takes runs isLoaded remaining call adds =>
    right
    obtain ⟨_, positive, total⟩ := fits
    refine ⟨rfl, ?_, ?_⟩
    · rw [Shift.taken_next total, Shift.taken]
      omega
    · rw [Shift.tally_next]
      exact (Tally.exceeds_of_add adds).counted
  | takesLast runs isLoaded remaining call adds =>
    right
    obtain ⟨_, positive, total⟩ := fits
    refine ⟨rfl, ?_, (Tally.exceeds_of_add adds).counted⟩
    rw [Shift.taken, Shift.taken]
    omega

/-- Going on to the next stage of an advance is explained by what was before. -/
theorem Awaits.leads {stage following : Stage} {exchange : Exchange}
    (leads : Stage.Leads executor cycle (some wheel) before stage exchange following after)
    (awaits : Awaits worker flushes (HasScript before) stage)
    (remembers : Remembers before flushes) :
    Awaits worker flushes (HasScript after) following ∧ Remembers after flushes ∧
      (HasScript before → HasScript after) := by
  have loads : HasScript before.withBundled :=
    List.contains_iff_mem.mpr List.mem_insert_self
  cases leads with
  | loaded => exact ⟨.inl loads, fun _ _ => .inl loads, fun _ => loads⟩
  | reloaded => exact ⟨⟨awaits, .inl loads⟩, fun _ _ => .inl loads, fun _ => loads⟩
  | known known => exact ⟨remembers _ known, remembers, id⟩
  | noted => exact ⟨awaits, fun _ _ => awaits, id⟩
  | renoted => exact ⟨awaits, fun _ _ => .inr awaits.1, id⟩
  | refused up unloaded => exact ⟨awaits.resolve_left unloaded, remembers, id⟩
  | _ => exact ⟨trivial, remembers, id⟩

/-- The counts after an advance that took an element. -/
theorem counted_of_taking {remaining : Nat} {call : UInt64} {tally sum : Tally}
    {stage : Stage} (adds : tally.add wheel.current 1 = .returned sum)
    (stands : (Shift.advancing stage remaining call tally).Stands plan worker flushes loaded)
    (element : String) : sum.counted element ≤ call.toNat := by
  have before := stands.counted element
  have positive := stands.fits.2.1
  rw [(Tally.exceeds_of_add adds).counted]
  rw [Shift.tally, Shift.taken] at before
  by_cases same : wheel.current = element
  · rw [if_pos same]
    omega
  · rw [if_neg same]
    omega

theorem keys_of_taking {remaining : Nat} {call : UInt64} {tally sum : Tally}
    {stage : Stage} (adds : tally.add wheel.current 1 = .returned sum)
    (stands : (Shift.advancing stage remaining call tally).Stands plan worker flushes loaded)
    (listed : wheel.current ∈ elements plan) :
    ∀ element ∈ sum.keys, element ∈ elements plan := by
  intro element known
  rcases (Tally.exceeds_of_add adds).keys element known with new | old
  · rw [List.mem_singleton.mp new]
    exact listed
  · exact stands.keys element old

/-- Whatever one step of a worker leaves is explained by what was before, and perhaps by
an unloading that the step itself is. -/
theorem Works.exists_stands (works : Works plan worker wheel before shift asked later after)
    (stands : shift.Stands plan worker flushes (HasScript before))
    (remembers : Remembers before flushes) (listed : wheel.current ∈ elements plan) :
    ∃ more, later.Stands plan worker more (HasScript after) ∧ Remembers after more ∧
      (more = flushes ∧ (HasScript before → HasScript after) ∨
        worker = 0 ∧ more = flushes + 1) := by
  cases works with
  | idle => exact ⟨flushes, stands, remembers, .inl ⟨rfl, id⟩⟩
  | goes leads pending =>
    obtain ⟨awaits, kept, keeps⟩ := Awaits.leads leads stands.explained remembers
    refine ⟨flushes, ?_, kept, .inl ⟨rfl, keeps⟩⟩
    exact
      { fits := ⟨pending, stands.fits.2⟩
        counted := stands.counted
        keys := stands.keys
        explained := awaits
        never := stands.never
        periods := stands.periods }
  | refused unloaded remaining call tally =>
    have fits := stands.fits
    have explained := stands.explained
    refine ⟨flushes, ?_, remembers, .inl ⟨rfl, id⟩⟩
    exact
      { fits := ⟨fits.2.1, Nat.le.intro fits.2.2⟩
        counted := stands.counted
        keys := stands.keys
        explained := explained.2.resolve_left unloaded
        never := stands.never
        periods := stands.periods }
  | flushes remaining call tally =>
    have fits := stands.fits
    refine ⟨flushes + 1, ?_, ?_, .inr ⟨fits.1, rfl⟩⟩
    · exact Shift.stands_next fits.2.2 stands.counted stands.keys stands.never stands.periods
    · intro digest known
      exact .inr (Nat.le_add_left 1 flushes)
  | takes runs isLoaded remaining call adds =>
    have fits := stands.fits
    refine ⟨flushes, ?_, remembers, .inl ⟨rfl, id⟩⟩
    apply Shift.stands_next fits.2.2
    · exact counted_of_taking adds stands
    · exact keys_of_taking adds stands listed
    · exact stands.never
    · intro first period every
      exact (stands.periods first period every).trans (Nat.sub_le _ _)
  | takesLast runs isLoaded remaining call adds due =>
    have fits := stands.fits
    obtain ⟨first, period, every, divides⟩ := period_dvd_of_flushDue due
    refine ⟨flushes, ?_, remembers, .inl ⟨rfl, id⟩⟩
    exact
      { fits := ⟨first, fits.2⟩
        counted := counted_of_taking adds stands
        keys := keys_of_taking adds stands listed
        explained := trivial
        never := by
          intro _ none
          rw [none] at every
          cases every
        periods := by
          intro _ other same
          cases every.symm.trans same
          have before : period.toNat * flushes ≤ call.toNat - 1 :=
            stands.periods first period every
          have positive : 1 ≤ call.toNat := fits.2.1
          obtain ⟨rounds, total⟩ := divides
          have fewer : flushes < rounds := by
            apply Nat.lt_of_mul_lt_mul_left (a := period.toNat)
            omega
          show period.toNat * (flushes + 1) ≤ call.toNat
          rw [total]
          exact Nat.mul_le_mul_left _ fewer }

end

end

end CyclePhase

end Stress

end Carousel
