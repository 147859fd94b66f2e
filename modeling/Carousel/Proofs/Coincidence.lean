/-
# When two tokens of one generator coincide

A call waits until the clock reads another millisecond than the one recorded
before, but the token carries a later reading of its own. That reading may already
be what the next call records. So two neighbouring calls can put the same timestamp
into their tokens, and nothing but the nonces keeps the tokens apart.

On a clock that never goes back this is all that can happen. Tokens that are not
neighbours differ in their timestamps. Neighbours coincide exactly if name and nonce
are repeated and if the later call read nothing but the timestamp of the earlier
one. Their texts coincide when they do.
-/

import Carousel.Proofs.Timestamps
import Carousel.Proofs.TokenText

namespace Carousel

/-- The later of two entries repeats the name and the nonce of the earlier one, and
has recorded and read the timestamp of the earlier one. -/
structure Entry.Clash (earlier later : Entry) : Prop where
  name_eq : later.token.name = earlier.token.name
  nonce_eq : later.token.nonce = earlier.token.nonce
  recorded_eq : later.recorded = earlier.token.timestamp
  timestamp_eq : later.token.timestamp = earlier.token.timestamp

theorem Entry.Clash.token_eq {earlier later : Entry} (clash : earlier.Clash later) :
    earlier.token = later.token :=
  Token.eq_of_parts clash.name_eq.symm clash.timestamp_eq.symm clash.nonce_eq.symm

namespace InOrder

variable {entries : List Entry} {place beyond : Nat} {earlier later : Entry}

/-- Two tokens coincide exactly if they are neighbours and clash. -/
theorem token_eq_iff (order : InOrder entries) (before : place < beyond)
    (found : entries[place]? = some earlier) (other : entries[beyond]? = some later) :
    earlier.token = later.token ↔ beyond = place + 1 ∧ earlier.Clash later := by
  constructor
  · intro same
    have timestamp : earlier.token.timestamp = later.token.timestamp :=
      congrArg Token.timestamp same
    have next : beyond = place + 1 := by
      by_contra apart
      have less := order.timestamp_lt place beyond earlier later (by omega) found other
      rw [timestamp] at less
      exact UInt64.lt_irrefl _ less
    obtain ⟨inside, firstly⟩ := List.getElem?_eq_some_iff.mp found
    obtain ⟨within, secondly⟩ := List.getElem?_eq_some_iff.mp other
    have above := List.pairwise_iff_getElem.mp order.timestamp_le_recorded place beyond
      inside within before
    rw [firstly, secondly] at above
    have below := order.within later (List.mem_of_getElem? other)
    rw [← timestamp] at below
    exact ⟨next, (congrArg Token.name same).symm, (congrArg Token.nonce same).symm,
      UInt64.le_antisymm below above, timestamp.symm⟩
  · intro both
    exact both.2.token_eq

/-- All tokens are distinct exactly if no two neighbours clash. -/
theorem nodup_tokens_iff (order : InOrder entries) :
    (entries.map Entry.token).Nodup ↔
      entries.IsChain fun earlier later => ¬ earlier.Clash later := by
  rw [List.Nodup, List.pairwise_map]
  constructor
  · intro apart
    exact apart.isChain.imp fun _ _ differ clash => differ clash.token_eq
  · intro chain
    rw [List.pairwise_iff_getElem]
    intro place beyond inside within before same
    have found := List.getElem?_eq_getElem inside
    have other := List.getElem?_eq_getElem within
    obtain ⟨next, clash⟩ := (order.token_eq_iff before found other).mp same
    subst next
    exact List.isChain_iff_getElem.mp chain place within clash

end InOrder

namespace Mint

/-- **Tokens are distinct unless neighbours clash.** Take any run of calls on a
fresh mint whose clock never goes back, with any sleeps, interrupts and nonces, and
the tokens that the generators of one family hand out. Two of them coincide exactly
if they were handed out one after the other, for the same name and with the same
nonce, and if the later call recorded and read the timestamp of the earlier token.
The texts of the tokens are distinct exactly when the tokens are. -/
theorem tokens_distinct_iff {devices : Devices} (steady : devices.Steady)
    (patience family : Nat) (calls : List Call) :
    (((journal devices patience family calls initial).map Entry.token).Nodup ↔
        (journal devices patience family calls initial).IsChain
          (fun earlier later => ¬ earlier.Clash later)) ∧
      (((journal devices patience family calls initial).map fun entry =>
          entry.token.render).Nodup ↔
        ((journal devices patience family calls initial).map Entry.token).Nodup) ∧
      ∀ place beyond earlier later, place < beyond →
        (journal devices patience family calls initial)[place]? = some earlier →
        (journal devices patience family calls initial)[beyond]? = some later →
          (earlier.token = later.token ↔
            beyond = place + 1 ∧ earlier.Clash later) := by
  have order := inOrder_journal steady patience family calls
  refine ⟨order.nodup_tokens_iff, ?_, ?_⟩
  · rw [List.Nodup, List.pairwise_map, List.Nodup, List.pairwise_map]
    apply List.Pairwise.iff
    intro first second
    exact not_congr Token.render_inj
  · intro place beyond earlier later before found other
    exact order.token_eq_iff before found other

/-- A clock that ticks between the two readings of the first call, and a source
that repeats a nonce. -/
def hurried : DevicePlan where
  clock := .listed ([1, 2, 2, 2, 3, 3].map Reading.time).toArray
  naps := #[]
  nonces := #[.nonce 7, .nonce 7]
  bedding := .prepared

/-- Two calls one after the other. -/
def hurriedCalls : List Call :=
  [.tryMint 0 "dock", .tryMint 0 "dock"]

theorem tokens_distinct_iff_hurried :
    hurried.devices.Steady ∧
      journal hurried.devices 9 0 hurriedCalls initial =
        [⟨0, 1, ⟨"dock", 2, 7⟩⟩, ⟨0, 2, ⟨"dock", 2, 7⟩⟩] ∧
      Entry.Clash ⟨0, 1, ⟨"dock", 2, 7⟩⟩ ⟨0, 2, ⟨"dock", 2, 7⟩⟩ := by
  have steady : hurried.devices.Steady := Devices.steady_of_listed (by decide) rfl
  have entries : journal hurried.devices 9 0 hurriedCalls initial =
      [⟨0, 1, ⟨"dock", 2, 7⟩⟩, ⟨0, 2, ⟨"dock", 2, 7⟩⟩] := by
    decide +kernel
  have coincide := (tokens_distinct_iff steady 9 0 hurriedCalls).2.2 0 1
    ⟨0, 1, ⟨"dock", 2, 7⟩⟩ ⟨0, 2, ⟨"dock", 2, 7⟩⟩ (by decide) (by rw [entries]; rfl)
    (by rw [entries]; rfl)
  exact ⟨steady, entries, (coincide.mp rfl).2⟩

/-- A clock that never goes back and nonces in range do not keep tokens apart. -/
theorem token_repeated :
    ¬ ∀ (devices : Devices) (patience family : Nat) (calls : List Call),
      devices.Steady →
      (∀ count nonce, devices.draw count = .nonce nonce → nonce.toNat < nonceBound) →
        ((journal devices patience family calls initial).map Entry.token).Nodup := by
  intro distinct
  have steady : hurried.devices.Steady := Devices.steady_of_listed (by decide) rfl
  have drawn : ∀ count nonce, hurried.devices.draw count = .nonce nonce →
      nonce.toNat < nonceBound := by
    intro count nonce given
    rcases count with _ | _ | count
    · cases given
      decide
    · cases given
      decide
    · cases given
      decide
  exact absurd (distinct hurried.devices 9 0 hurriedCalls steady drawn)
    (by decide +kernel)

end Mint

end Carousel
