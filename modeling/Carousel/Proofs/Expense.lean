/-
# What a minting call uses up

A call waits for as many readings as the clock tells what was recorded before. One
more reading is recorded, yet another one goes into the token, and one nonce is
drawn. The call sleeps for one tick after each reading that made it wait, until a
sleep is interrupted, and from then on only reads.

An interrupted call raises the interrupt again when it has drawn the nonce, and not
before: were the draw to fail, the devices would be left as they are just before the
interrupt is raised.
-/

import Carousel.Proofs.Waiting
import Carousel.Token.Plan

namespace Carousel

namespace Generator

variable {devices : Devices} {usage : Usage} {last : UInt64}

section

variable {rounds patience : Nat} {mark : Bool} {idle : Usage} {now : UInt64}

/-- When a wait is over, its call records what the clock has told, assembles a token,
and raises an interrupt again. Any patience that lasts so long will do. -/
theorem Idles.mint_eq (idles : Idles devices last usage rounds mark idle)
    (told : (devices.reading idle.reads).millis? = some now) (other : now ≠ last)
    (lasting : rounds ≤ patience) (name : String) :
    mint devices patience name ⟨last, false⟩ usage =
      match assemble devices name (devices.heard idle) with
      | (.panicked message, used) => some (.panicked message, ⟨now, true⟩, used)
      | (.returned token, drawn) =>
        some (.returned (.ok ⟨token, mark⟩), ⟨now, false⟩,
          if mark then devices.restore drawn else drawn) := by
  rw [mint, if_neg Bool.false_ne_true]
  simp only [idles.awaitTick_eq told other lasting]
  rcases assemble devices name (devices.heard idle) with ⟨_ | _, _⟩
  · rfl
  · rfl

/-- The readings and the sleeps of a wait do not depend on the source of nonces. -/
theorem Idles.withDraw (idles : Idles devices last usage rounds mark idle)
    (draw : Nat → Draw) : Idles { devices with draw } last usage rounds mark idle := by
  induction idles with
  | none => exact .none
  | more before told dozed ih => exact .more ih told dozed

/-- A wait is marked exactly if one of the sleeps in its course is interrupted. -/
theorem Idled.mark_eq_true_iff (idled : Idled devices last usage rounds mark idle) :
    mark = true ↔ ∃ first < rounds, devices.FirstInterrupted usage first := by
  constructor
  · intro marked
    obtain ⟨first, within, interrupted, _⟩ := idled.startled marked
    exact ⟨first, within, interrupted⟩
  · rintro ⟨first, within, interrupted⟩
    cases mark with
    | true => rfl
    | false =>
      have rested := (idled.quiet rfl).1 first within
      rw [interrupted.2] at rested
      cases rested

end

/-- What a call uses up that waits for `count` readings: `drawn` is the state of the
devices when the nonce has been drawn, and `used` the state in the end. -/
structure Spent (devices : Devices) (usage : Usage) (count : Nat) (interrupted : Bool)
    (drawn used : Usage) : Prop where
  reads : used.reads = usage.reads + (count + 2)
  draws : used.draws = usage.draws + 1
  startled : ∀ first < count, devices.FirstInterrupted usage first →
    interrupted = true ∧ used.restores = usage.restores + 1 ∧
      used.naps = usage.naps ++ .replicate (first + 1) clockTick
  undisturbed : (∀ first < count, ¬ devices.FirstInterrupted usage first) →
    interrupted = false ∧ used.restores = usage.restores ∧
      used.naps = usage.naps ++ .replicate count clockTick
  drawn_draws : drawn.draws = usage.draws + 1
  drawn_restores : drawn.restores = usage.restores
  restored : used = if interrupted then devices.restore drawn else drawn

/-- After so many rounds, two readings and a draw, this is what has been used up. -/
theorem Idled.spent {count : Nat} {mark : Bool} {idle : Usage}
    (idled : Idled devices last usage count mark idle) :
    Spent devices usage count mark
      (Devices.drawn (devices.heard (devices.heard idle)))
      (if mark then devices.restore (Devices.drawn (devices.heard (devices.heard idle)))
        else Devices.drawn (devices.heard (devices.heard idle))) where
  reads := by
    have reads := idled.reads
    simp only [Devices.reads_restore_if, Devices.reads_drawn, Devices.reads_heard]
    omega
  draws := by
    simp [idled.draws]
  startled := by
    intro first before interrupted
    have marked := idled.mark_eq_true_iff.mpr ⟨first, before, interrupted⟩
    obtain ⟨only, _, also, naps⟩ := idled.startled marked
    cases also.unique interrupted
    subst marked
    simp [idled.restores, naps]
  undisturbed := by
    intro none
    have unmarked : mark = false := by
      apply Bool.eq_false_iff.mpr
      intro marked
      obtain ⟨first, before, interrupted⟩ := idled.mark_eq_true_iff.mp marked
      exact none first before interrupted
    obtain ⟨_, naps, _⟩ := idled.quiet unmarked
    subst unmarked
    simp [idled.restores, naps]
  drawn_draws := by
    simp [idled.draws]
  drawn_restores := by
    simp [idled.restores]
  restored := rfl

/-- **A call to the tick.** Let the clock tell `clock`, and let `count` be the number
of readings until it first tells something else than was recorded. Provided that no
device fails on the way, a call comes back. It reads the clock twice more and draws
one nonce, records the first of the two readings, and puts the second into the token.
It sleeps for one tick at a time: up to the first interrupted sleep, if there is one
on the way, and then tells so and raises the interrupt again once; and otherwise
after each of the `count` readings. It does not raise the interrupt again before the
nonce is drawn: were the draw to fail, the devices would be left as `drawn`. -/
theorem mint_exactly (devices : Devices) (name : String) (last : UInt64)
    (usage : Usage) (clock : Nat → UInt64) (nonce : UInt32) (count : Nat)
    (told : ∀ ahead < count + 2, devices.millisAt usage ahead = some (clock ahead))
    (same : ∀ ahead < count, clock ahead = last) (other : clock count ≠ last)
    (sound : ∀ ahead < count, devices.Undisturbed usage ahead → ∀ message,
      devices.napAfter usage (ahead + 1) ahead ≠ .failure message)
    (draw : devices.draw usage.draws = .nonce nonce)
    (within : nonce.toNat < nonceBound) :
    ∃ interrupted drawn used,
      (∀ patience, count ≤ patience →
        mint devices patience name ⟨last, false⟩ usage =
          some (.returned (.ok ⟨⟨name, clock (count + 1), nonce⟩, interrupted⟩),
            ⟨clock count, false⟩, used)) ∧
      Spent devices usage count interrupted drawn used ∧
      ∀ patience, count ≤ patience → ∀ message,
        mint { devices with draw := fun _ => .failure message } patience name
            ⟨last, false⟩ usage =
          some (.panicked message, ⟨clock count, true⟩, drawn) := by
  have stood : ∀ ahead < count, devices.millisAt usage ahead = some last := by
    intro ahead before
    rw [told ahead (by omega), same ahead before]
  obtain ⟨mark, idle, idles⟩ := exists_idles stood sound
  have idled := idles.idled
  have recorded : (devices.reading idle.reads).millis? = some (clock count) := by
    rw [← idled.millisAt_eq]
    exact told count (by omega)
  have stamped : (devices.reading (devices.heard idle).reads).millis? =
      some (clock (count + 1)) := by
    rw [idled.reads_succ]
    exact told (count + 1) (by omega)
  have drew : devices.draw (devices.heard idle).draws = .nonce nonce := by
    rw [Devices.draws_heard, idled.draws]
    exact draw
  refine ⟨mark, _, _, ?_, idled.spent, ?_⟩
  · intro patience lasting
    rw [idles.mint_eq recorded other lasting]
    simp only [assemble_eq stamped drew within]
  · intro patience lasting message
    let failing : Nat → Draw := fun _ => .failure message
    have unmade : assemble { devices with draw := failing } name (devices.heard idle) =
        (.panicked message, Devices.drawn (devices.heard (devices.heard idle))) :=
      assemble_of_failing_draw stamped rfl
    have called := (idles.withDraw failing).mint_eq recorded other lasting name
    simp only [Devices.heard] at called unmade
    rw [unmade] at called
    exact called

/-- A clock that stands still for three readings, and a second sleep that is
interrupted. -/
def drowsy : DevicePlan where
  clock := .listed ([10, 10, 10, 11, 12].map Reading.time).toArray
  naps := #[.rested, .interrupted]
  nonces := #[.nonce 7]
  bedding := .prepared

theorem mint_exactly_drowsy :
    drowsy.devices.FirstInterrupted {} 1 ∧
      ∃ drawn used,
        mint drowsy.devices 3 "dock" ⟨10, false⟩ {} =
          some (.returned (.ok ⟨⟨"dock", 12, 7⟩, true⟩), ⟨11, false⟩, used) ∧
        Spent drowsy.devices {} 3 true drawn used ∧
        used.naps = #[clockTick, clockTick] ∧ used.restores = 1 := by
  have first : drowsy.devices.FirstInterrupted {} 1 := by decide
  obtain ⟨interrupted, drawn, used, called, spent, _⟩ :=
    mint_exactly drowsy.devices "dock" 10 {} (fun ahead => [10, 10, 10, 11, 12].getD ahead 0)
      7 3 (by decide) (by decide) (by decide)
      (by
        intro ahead before undisturbed message failed
        rcases ahead with _ | _ | _ | ahead
        · cases failed
        · cases failed
        · cases failed
        · omega)
      rfl (by decide)
  obtain ⟨rfl, restores, naps⟩ := spent.startled 1 (by decide) first
  exact ⟨first, drawn, used, called 3 (Nat.le_refl 3), spent, naps, restores⟩

/-! ## Sleeping at all -/

/-- The record of sleeps shows whether anybody slept. -/
theorem append_replicate_eq_iff {naps : Array Span} {sleeps : Nat} :
    naps ++ .replicate sleeps clockTick = naps ↔ sleeps = 0 := by
  constructor
  · intro same
    have sizes := congrArg Array.size same
    rw [Array.size_append, Array.size_replicate] at sizes
    omega
  · rintro rfl
    simp

/-- A wait sleeps for one tick at a time, and at least once if it goes on for a round
at all. -/
theorem Idled.exists_sleeps {rounds : Nat} {mark : Bool} {idle : Usage}
    (idled : Idled devices last usage rounds mark idle) :
    ∃ sleeps, idle.naps = usage.naps ++ .replicate sleeps clockTick ∧
      (0 < sleeps ↔ 0 < rounds) := by
  cases mark with
  | false =>
    obtain ⟨_, naps, _⟩ := idled.quiet rfl
    exact ⟨rounds, naps, Iff.rfl⟩
  | true =>
    obtain ⟨first, within, _, naps⟩ := idled.startled rfl
    refine ⟨first + 1, naps, ?_⟩
    constructor
    · intro _
      omega
    · intro _
      omega

/-- A wait in which the clock stops telling what was recorded has slept exactly if the
clock told it at first. -/
theorem Idled.exists_sleeps_of_untold {rounds : Nat} {mark : Bool} {idle : Usage}
    (idled : Idled devices last usage rounds mark idle)
    (untold : (devices.reading idle.reads).millis? ≠ some last) :
    ∃ sleeps, idle.naps = usage.naps ++ .replicate sleeps clockTick ∧
      (0 < sleeps ↔ devices.millisAt usage 0 = some last) := by
  obtain ⟨sleeps, naps, some_iff⟩ := idled.exists_sleeps
  refine ⟨sleeps, naps, some_iff.trans ?_⟩
  constructor
  · exact idled.told 0
  · intro told
    rcases Nat.eq_zero_or_pos rounds with none | gone
    · subst none
      rw [idled.millisAt_eq] at told
      exact absurd told untold
    · exact gone

/-- A call sleeps for one tick at a time, and at least once exactly if it gets to read
the clock and first reads what was recorded. -/
theorem Course.exists_sleeps {name : String} {before after : Generator}
    {ending : Ending (Except Fault Minted)} {used : Usage}
    (course : Course devices name before usage ending after used) :
    ∃ sleeps, used.naps = usage.naps ++ .replicate sleeps clockTick ∧
      (0 < sleeps ↔
        before.poisoned = false ∧ devices.millisAt usage 0 = some before.last) := by
  cases course with
  | refused poisoned => exact ⟨0, by simp, by simp [poisoned]⟩
  | @unread _ _ idle _ healthy idles failed =>
    have untold : (devices.reading idle.reads).millis? ≠ some before.last := by
      simp [failed, Reading.millis?]
    obtain ⟨sleeps, naps, some_iff⟩ := idles.idled.exists_sleeps_of_untold untold
    exact ⟨sleeps, naps, by simp [healthy, some_iff]⟩
  | @unrested rounds _ _ healthy idles told failed =>
    have first := idles.idled.told_succ told 0 (Nat.succ_pos rounds)
    exact ⟨rounds + 1, idles.idled.naps_slept, by simp [healthy, first]⟩
  | @unmade _ _ idle _ _ _ healthy idles told other unmade =>
    have untold : (devices.reading idle.reads).millis? ≠ some before.last := by
      simp [told, other]
    obtain ⟨sleeps, naps, some_iff⟩ := idles.idled.exists_sleeps_of_untold untold
    exact ⟨sleeps, by rw [unmade.naps_eq, Devices.naps_heard, naps],
      by simp [healthy, some_iff]⟩
  | @minted _ _ idle _ _ _ healthy idles told other =>
    have untold : (devices.reading idle.reads).millis? ≠ some before.last := by
      simp [told, other]
    obtain ⟨sleeps, naps, some_iff⟩ := idles.idled.exists_sleeps_of_untold untold
    exact ⟨sleeps, by simp [naps], by simp [healthy, some_iff]⟩

end Generator

end Carousel
