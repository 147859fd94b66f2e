/-
# Whom a minting call waits for

A call is meant to wait for the millisecond that the call before it has recorded. As
long as its family is not poisoned, what the state keeps is what the last entry of the
journal records, so a call waits exactly if its first reading repeats that.

Where no call has recorded anything yet, the state keeps zero, which a clock can read
as well. A fresh generator on a clock that reads zero waits although nobody has minted
before it. If the clock goes on reading zero, as a clock before 1970 does, the call
does not come back, and it holds the lock meanwhile.
-/

import Carousel.Proofs.Expense
import Carousel.Proofs.Striking
import Carousel.Proofs.Timestamps

namespace Carousel

namespace Mint

open Generator

variable {devices : Devices} {patience : Nat} {start final : Mint} {calls : List Call}
  {family : Nat}

/-- What the state of a family keeps is what its last entry has recorded, and what it
kept at the start if there is none. -/
theorem last_eq_of_reached (housed : start.Housed)
    (led : Reached devices patience calls start final)
    (healthy : (final.family family).poisoned = false) :
    (final.family family).last =
      ((journal devices patience family calls start).map Entry.recorded).getLastD
        (start.family family).last := by
  induction calls generalizing start with
  | nil =>
    cases reached_nil.mp led
    rfl
  | cons call rest ih =>
    obtain ⟨answer, after, performed, leads⟩ := reached_cons.mp led
    obtain ⟨still, _, effect⟩ := performed_of_perform housed performed family
    rw [ih still leads, journal_cons rest performed]
    generalize entryOf family start call answer after = entry at effect
    cases effect with
    | handed struck recorded =>
      rw [Option.toList_some, List.singleton_append, List.map_cons, List.getLastD_cons,
        recorded]
    | kept same =>
      rw [same]
      rfl
    | poisoned poisoned =>
      rw [poisoned_of_reached still leads poisoned] at healthy
      cases healthy

/-- The next reading repeats what the last of the entries has recorded. -/
def Repeats (devices : Devices) (usage : Usage) (entries : List Entry) : Prop :=
  ∃ entry, entries.getLast? = some entry ∧
    devices.millisAt usage 0 = some entry.recorded

/-- Nothing has been recorded yet, and the next reading is zero. -/
def DawnsAtZero (devices : Devices) (usage : Usage) (entries : List Entry) : Prop :=
  entries = [] ∧ devices.millisAt usage 0 = some 0

/-- What a fresh mint keeps in the state of a family that is not poisoned is what has
been recorded last, or zero. -/
theorem told_last_iff {mint : Mint} (led : Reached devices patience calls initial mint)
    (healthy : (mint.family family).poisoned = false) :
    devices.millisAt mint.usage 0 = some (mint.family family).last ↔
      Repeats devices mint.usage (journal devices patience family calls initial) ∨
        DawnsAtZero devices mint.usage
          (journal devices patience family calls initial) := by
  have last := last_eq_of_reached housed_initial led healthy
  rw [last_initial, List.getLastD_eq_getLast?, List.getLast?_map] at last
  rw [last]
  rcases entries : journal devices patience family calls initial with _ | ⟨entry, rest⟩
  · simp [Repeats, DawnsAtZero]
  · simp [Repeats, DawnsAtZero, List.getLast?_eq_some_getLast]

/-- **Whom a call waits for.** Take any run of calls on a fresh mint, and then one that
asks for a token. It sleeps exactly if it gets to read the clock, and first reads what
the call of its family before it has recorded, or reads zero if no call of its family
has recorded anything. A call that does not come back is one that waits so. -/
theorem sleeps_iff_repeats (devices : Devices) (patience : Nat) (calls : List Call)
    (mint : Mint) (led : Reached devices patience calls initial mint) (call : Call)
    (generator : Nat) (asked : call.minter? = some generator) :
    (∀ answer after, mint.perform devices patience call = some (answer, after) →
      (after.usage.naps ≠ mint.usage.naps ↔
        mint.usage.reads < after.usage.reads ∧
          (Repeats devices mint.usage
              (journal devices patience (mint.familyOf generator) calls initial) ∨
            DawnsAtZero devices mint.usage
              (journal devices patience (mint.familyOf generator) calls initial)))) ∧
    (mint.perform devices patience call = none →
      Repeats devices mint.usage
          (journal devices patience (mint.familyOf generator) calls initial) ∨
        DawnsAtZero devices mint.usage
          (journal devices patience (mint.familyOf generator) calls initial)) := by
  constructor
  · intro answer after performed
    obtain ⟨name, ending, state, _, _, course⟩ := course_of_perform asked performed
    obtain ⟨sleeps, naps, slept_iff⟩ := course.exists_sleeps
    rw [naps, ne_eq, append_replicate_eq_iff, ← ne_eq, ← Nat.pos_iff_ne_zero, slept_iff,
      course.reads_lt_iff]
    apply and_congr_right
    intro healthy
    exact told_last_iff led healthy
  · intro undecided
    obtain ⟨healthy, told⟩ := told_of_perform_eq_none asked undecided
    exact (told_last_iff led healthy).mp told

/-- On a clock that tells nothing but what was recorded no call comes back, whatever the
patience. For a fresh generator this is a clock that stands still at zero. -/
theorem perform_eq_none_of_still {mint : Mint} {call : Call} {generator : Nat}
    (asked : call.minter? = some generator)
    (healthy : (mint.state generator).poisoned = false)
    (still : ∀ count,
      (devices.reading count).millis? = some (mint.state generator).last)
    (sound : ∀ count message, devices.nap count ≠ .failure message) :
    mint.perform devices patience call = none := by
  rcases performed : mint.perform devices patience call with _ | ⟨answer, after⟩
  · rfl
  · obtain ⟨name, ending, state, _, _, course⟩ := course_of_perform asked performed
    generalize after.usage = used at course
    cases course with
    | refused poisoned =>
      rw [healthy] at poisoned
      cases poisoned
    | @unread _ _ idle _ _ _ failed =>
      have told := still idle.reads
      rw [failed] at told
      cases told
    | unrested _ _ _ failed =>
      rw [Devices.napAfter] at failed
      split at failed
      · exact absurd failed (sound _ _)
      · split at failed <;> cases failed
      · cases failed
    | unmade _ _ told other | minted _ _ told other =>
      rw [still] at told
      exact absurd (Option.some.inj told).symm other

/-- A clock that reads zero before it goes on. -/
def dawning : DevicePlan where
  clock := .listed ([0, 5, 6].map Reading.time).toArray
  naps := #[]
  nonces := #[.nonce 7]
  bedding := .prepared

/-- A fresh mint on that clock after one call. -/
def dawned : Mint :=
  ⟨[⟨5, false⟩], [0], ⟨3, 1, #[clockTick], 0, {}⟩⟩

theorem perform_dawning :
    initial.perform dawning.devices 9 (.tryMint 0 "dock") =
      some (.minted (.returned (.ok ⟨⟨"dock", 6, 7⟩, false⟩)), dawned) :=
  rfl

theorem sleeps_iff_repeats_dawning :
    DawnsAtZero dawning.devices initial.usage
        (journal dawning.devices 9 (initial.familyOf 0) [] initial) ∧
      dawned.usage.naps ≠ initial.usage.naps := by
  have dawns : DawnsAtZero dawning.devices initial.usage
      (journal dawning.devices 9 (initial.familyOf 0) [] initial) := ⟨rfl, rfl⟩
  have slept_iff := (sleeps_iff_repeats dawning.devices 9 [] initial (reached_nil.mpr rfl)
    (.tryMint 0 "dock") 0 rfl).1 _ dawned perform_dawning
  exact ⟨dawns, slept_iff.mpr ⟨by decide, .inr dawns⟩⟩

/-- Even the first call on a fresh generator may sleep, although nothing has been
recorded that it could wait for. -/
theorem fresh_call_slept :
    ¬ ∀ (devices : Devices) (patience : Nat) (calls : List Call) (mint : Mint),
      Reached devices patience calls initial mint → ∀ (call : Call) (generator : Nat),
        call.minter? = some generator → ∀ (answer : Answer) (after : Mint),
          mint.perform devices patience call = some (answer, after) →
            (after.usage.naps ≠ mint.usage.naps ↔
              mint.usage.reads < after.usage.reads ∧
                Repeats devices mint.usage
                  (journal devices patience (mint.familyOf generator) calls
                    initial)) := by
  intro waits
  have slept_iff := waits dawning.devices 9 [] initial (reached_nil.mpr rfl)
    (.tryMint 0 "dock") 0 rfl _ dawned perform_dawning
  obtain ⟨_, entry, last, _⟩ := slept_iff.mp (by decide)
  cases last

end Mint

end Carousel
