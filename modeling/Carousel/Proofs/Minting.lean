/-
# What one call of a generator reads and records

A call that hands out a token has read the clock at two places at least. The first
of them gave another millisecond than the one recorded before, and is recorded in
its stead. The second, later one is the timestamp of the token. A call that hands
out nothing leaves the lock poisoned.

Nothing is said here about how often the clock is read in between, nor about
sleeps. On a clock that never goes back, a millisecond that has been read is a
bound from below on all that will be read: this is the only fact about the clock
that the order of timestamps needs.
-/

import Carousel.Proofs.Waiting

namespace Carousel

namespace Devices

variable (devices : Devices)

/-- The clock never goes back. Failing reads tell nothing. -/
def Steady : Prop :=
  ∀ earlier later first second, earlier ≤ later →
    (devices.reading earlier).millis? = some first →
    (devices.reading later).millis? = some second → first ≤ second

/-- The millisecond has been told by one of the readings from `start` on. -/
def Told (start : Nat) (usage : Usage) (millis : UInt64) : Prop :=
  ∃ index, start ≤ index ∧ index < usage.reads ∧
    (devices.reading index).millis? = some millis

/-- No reading from now on tells less than the given millisecond. -/
def Passed (usage : Usage) (millis : UInt64) : Prop :=
  ∀ index, usage.reads ≤ index → ∀ later,
    (devices.reading index).millis? = some later → millis ≤ later

variable {devices} {usage : Usage}

/-- What has been told is a bound on what will be, if the clock is steady. -/
theorem Told.passed {start : Nat} {millis : UInt64}
    (told : devices.Told start usage millis) (steady : devices.Steady) :
    devices.Passed usage millis := by
  obtain ⟨index, _, before, read⟩ := told
  intro other after later given
  exact steady index other millis later (by omega) read given

theorem Passed.mono {later : Usage} {millis : UInt64}
    (passed : devices.Passed usage millis) (grown : usage.reads ≤ later.reads) :
    devices.Passed later millis :=
  fun index after => passed index (Nat.le_trans grown after)

/-- A bound on what will be told is a bound on what is told from then on. -/
theorem Passed.le_of_told {later : Usage} {bound millis : UInt64}
    (passed : devices.Passed usage bound)
    (told : devices.Told usage.reads later millis) : bound ≤ millis := by
  obtain ⟨index, after, _, read⟩ := told
  exact passed index after millis read

theorem passed_zero (usage : Usage) : devices.Passed usage 0 :=
  fun _ _ _ _ => UInt64.zero_le

end Devices

namespace Generator

variable {devices : Devices} {usage used : Usage}

/-- A call has handed out a token. Between its two readings of interest, the
devices have been used as far as `between` says. -/
structure Struck (devices : Devices) (name : String) (before : Generator)
    (usage : Usage) (minted : Minted) (after : Generator) (used : Usage) : Prop where
  open_before : before.poisoned = false
  open_after : after.poisoned = false
  last_ne : after.last ≠ before.last
  name_eq : minted.token.name = name
  nonce_lt : minted.token.nonce.toNat < nonceBound
  told : ∃ between, usage.reads ≤ between.reads ∧
    devices.Told usage.reads between after.last ∧
    devices.Told between.reads used minted.token.timestamp

/-- A call hands out a token, or leaves the lock poisoned. -/
theorem mint_cases {patience : Nat} {name : String} {before after : Generator}
    {ending : Ending (Except Fault Minted)}
    (called : before.mint devices patience name usage = some (ending, after, used)) :
    usage.reads ≤ used.reads ∧
      ((∃ minted, ending = .returned (.ok minted) ∧
          Struck devices name before usage minted after used) ∨
        (after.poisoned = true ∧ ∀ minted, ending ≠ .returned (.ok minted))) := by
  have course := course_of_mint called
  constructor
  · exact course.reads_le
  · cases course with
    | refused poisoned =>
      right
      simpa using poisoned
    | unread | unrested | unmade =>
      right
      simp
    | @minted rounds mark idle now timestamp nonce healthy idles told other stamped draw
        within =>
      left
      have began : usage.reads ≤ idle.reads := by
        rw [idles.idled.reads]
        exact Nat.le_add_right _ _
      refine ⟨_, rfl, healthy, rfl, other, rfl, within, devices.heard idle, ?_, ?_, ?_⟩
      · rw [Devices.reads_heard]
        omega
      · exact ⟨idle.reads, began, Nat.lt_succ_self _, told⟩
      · refine ⟨idle.reads + 1, Nat.le_refl _, ?_, stamped⟩
        split <;> simp

section

variable {name : String} {before after : Generator} {minted : Minted}

/-- On a steady clock the timestamp of a token is no less than what its call has
recorded, and nothing that is told later is less than the timestamp. -/
theorem Struck.passed (struck : Struck devices name before usage minted after used)
    (steady : devices.Steady) :
    after.last ≤ minted.token.timestamp ∧
      devices.Passed used minted.token.timestamp := by
  obtain ⟨between, _, early, late⟩ := struck.told
  exact ⟨(early.passed steady).le_of_told late, late.passed steady⟩

/-- What was a bound before the call is a bound on what the call records. -/
theorem Struck.le_last (struck : Struck devices name before usage minted after used)
    {bound : UInt64} (passed : devices.Passed usage bound) : bound ≤ after.last := by
  obtain ⟨between, _, early, _⟩ := struck.told
  exact passed.le_of_told early

end

end Generator

end Carousel
