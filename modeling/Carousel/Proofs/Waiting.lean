/-
# The course of a minting call

A call waits in rounds. In each round the clock tells once more what was recorded
before, and the call dozes: it sleeps for one tick, unless an earlier sleep was
interrupted. The rounds end when the clock tells something else, or when a device
panics. `Idles` is the relation between the devices before and after so many rounds,
and `Course` lists the ways in which a call can end. Everything that is proved about
single calls is read off these two, so that the loop is taken apart only here.

How far the devices have been used after so many rounds is known from the start: the
readings are those that come next, and the sleeps are as long as the clock stands
still or until the first interruption. Patience plays no part in this. It only
decides whether the end of a wait is seen.
-/

import Carousel.Token.Mint

namespace Carousel

/-- A sleep tells what the latch shows, and lowers it. -/
theorem Latch.sleep_eq (latch : Latch) : latch.sleep = (latch.raised, {}) := by
  rcases latch with ⟨_ | _⟩
  · rfl
  · rfl

namespace Reading

/-- The millisecond that a reading tells, if it does not fail. -/
def millis? : Reading → Option UInt64
  | .time millis => some millis
  | .interruptedTime millis => some millis
  | .failure _ => none

/-- Whether somebody raises an interrupt just before the reading. -/
def raises : Reading → Bool
  | .interruptedTime _ => true
  | _ => false

/-- How a reading comes back. -/
def ending : Reading → Ending UInt64
  | .time millis => .returned millis
  | .interruptedTime millis => .returned millis
  | .failure message => .panicked message

theorem ending_eq_returned_iff {reading : Reading} {millis : UInt64} :
    reading.ending = .returned millis ↔ reading.millis? = some millis := by
  cases reading <;> simp [ending, millis?]

theorem ending_eq_panicked_iff {reading : Reading} {message : String} :
    reading.ending = .panicked message ↔ reading = .failure message := by
  cases reading <;> simp [ending]

theorem told_or_failed (reading : Reading) :
    (∃ millis, reading.millis? = some millis) ∨ ∃ message, reading = .failure message := by
  cases reading <;> simp [millis?]

end Reading

/-- How a sleep comes back: it tells whether it was interrupted. -/
def Nap.ending : Nap → Ending Bool
  | .rested => .returned false
  | .interrupted => .returned true
  | .failure message => .panicked message

/-- How a draw comes back. -/
def Draw.ending : Draw → Ending UInt32
  | .nonce value => .returned value
  | .failure message => .panicked message

namespace Devices

variable (devices : Devices) (usage : Usage)

/-! ## Single uses -/

/-- The devices after one reading of the clock. -/
def heard : Usage :=
  { usage with
    reads := usage.reads + 1
    latch.raised := usage.latch.raised || (devices.reading usage.reads).raises }

/-- The devices after one sleep. -/
def slept (span : Span) : Usage :=
  { usage with
    naps := usage.naps.push span
    latch := if devices.bedding = .latched then {} else usage.latch }

/-- The devices after one draw. -/
def drawn : Usage :=
  { usage with draws := usage.draws + 1 }

/-- An interrupt is pending, or is raised by one of the next readings. -/
def Disturbed (readings : Nat) : Prop :=
  usage.latch.raised = true ∨
    ∃ ahead < readings, (devices.reading (usage.reads + ahead)).raises = true

instance (readings : Nat) : Decidable (devices.Disturbed usage readings) :=
  inferInstanceAs (Decidable (_ ∨ _))

/-- What becomes of a sleep after so many readings and so many undisturbed sleeps
from now on. -/
def napAfter (readings naps : Nat) : Nap :=
  match devices.bedding with
  | .prepared => devices.nap (usage.naps.size + naps)
  | .latched => if devices.Disturbed usage readings then .interrupted else .rested
  | .plain => .rested

section

variable (span : Span)

@[simp]
theorem reads_heard : (devices.heard usage).reads = usage.reads + 1 := rfl

@[simp]
theorem draws_heard : (devices.heard usage).draws = usage.draws := rfl

@[simp]
theorem naps_heard : (devices.heard usage).naps = usage.naps := rfl

@[simp]
theorem restores_heard : (devices.heard usage).restores = usage.restores := rfl

@[simp]
theorem reads_slept : (devices.slept usage span).reads = usage.reads := rfl

@[simp]
theorem reads_drawn : (drawn usage).reads = usage.reads := rfl

@[simp]
theorem draws_drawn : (drawn usage).draws = usage.draws + 1 := rfl

@[simp]
theorem naps_drawn : (drawn usage).naps = usage.naps := rfl

@[simp]
theorem restores_drawn : (drawn usage).restores = usage.restores := rfl

@[simp]
theorem latch_drawn : (drawn usage).latch = usage.latch := rfl

/-- Raising an interrupt again counts, and may raise the latch. -/
theorem restore_eq :
    devices.restore usage =
      { usage with
        restores := usage.restores + 1
        latch := if devices.bedding = .latched then usage.latch.raise else usage.latch } := by
  rw [restore]
  cases devices.bedding <;> rfl

@[simp]
theorem reads_restore : (devices.restore usage).reads = usage.reads := by
  rw [restore_eq]

@[simp]
theorem draws_restore : (devices.restore usage).draws = usage.draws := by
  rw [restore_eq]

@[simp]
theorem naps_restore : (devices.restore usage).naps = usage.naps := by
  rw [restore_eq]

@[simp]
theorem restores_restore : (devices.restore usage).restores = usage.restores + 1 := by
  rw [restore_eq]

variable (mark : Bool)

/-- Raised again or not, an interrupt takes no reading. -/
@[simp]
theorem reads_restore_if :
    (if mark then devices.restore usage else usage).reads = usage.reads := by
  cases mark with
  | true => exact reads_restore devices usage
  | false => rfl

@[simp]
theorem draws_restore_if :
    (if mark then devices.restore usage else usage).draws = usage.draws := by
  cases mark with
  | true => exact draws_restore devices usage
  | false => rfl

@[simp]
theorem naps_restore_if :
    (if mark then devices.restore usage else usage).naps = usage.naps := by
  cases mark with
  | true => exact naps_restore devices usage
  | false => rfl

end

theorem readClock_eq :
    devices.readClock usage =
      ((devices.reading usage.reads).ending, devices.heard usage) := by
  rw [readClock, heard]
  cases devices.reading usage.reads <;> simp [Reading.ending, Reading.raises, Latch.raise]

theorem drawNonce_eq :
    devices.drawNonce usage = ((devices.draw usage.draws).ending, drawn usage) := by
  rw [drawNonce]
  cases devices.draw usage.draws with
  | nonce value => rfl
  | failure message => rfl

variable {devices} {usage}

@[simp]
theorem disturbed_zero : devices.Disturbed usage 0 ↔ usage.latch.raised = true := by
  simp [Disturbed]

/-- The latest of the readings either raises an interrupt itself or adds nothing. -/
theorem disturbed_succ {readings : Nat} :
    devices.Disturbed usage (readings + 1) ↔
      devices.Disturbed usage readings ∨
        (devices.reading (usage.reads + readings)).raises = true := by
  simp only [Disturbed, Nat.exists_lt_succ_right, or_assoc]

theorem Disturbed.mono {fewer more : Nat} (disturbed : devices.Disturbed usage fewer)
    (le : fewer ≤ more) : devices.Disturbed usage more := by
  rcases disturbed with pending | ⟨ahead, before, raises⟩
  · exact .inl pending
  · exact .inr ⟨ahead, by omega, raises⟩

variable (devices) (usage)

theorem sleep_eq (span : Span) :
    devices.sleep usage span =
      ((devices.napAfter usage 0 0).ending, devices.slept usage span) := by
  rw [sleep, napAfter, slept]
  cases devices.bedding with
  | prepared => cases devices.nap usage.naps.size <;> simp [Nap.ending, *]
  | latched =>
    simp only [Latch.sleep_eq, disturbed_zero]
    by_cases pending : usage.latch.raised = true
    · simp [pending, Nap.ending]
    · simp [pending, Nap.ending]
  | plain => rfl

variable {devices} {usage}

/-- What becomes of a sleep is known beforehand: it takes the numbers of readings and
sleeps until then, and what has become of the latch. -/
theorem napAfter_of_later {later : Usage} {readings naps : Nat}
    (slept : later.naps.size = usage.naps.size + naps)
    (latch : later.latch.raised = true ↔ devices.Disturbed usage readings) :
    devices.napAfter later 0 0 = devices.napAfter usage readings naps := by
  rw [napAfter, napAfter]
  cases devices.bedding with
  | prepared => simp only [slept, Nat.add_zero]
  | latched => simp only [disturbed_zero, latch]
  | plain => rfl

/-- If the latch shows all that was raised, it does so after one more reading. -/
theorem raised_heard_iff {later : Usage} {readings : Nat}
    (reads : later.reads = usage.reads + readings)
    (latch : later.latch.raised = true ↔ devices.Disturbed usage readings) :
    (devices.heard later).latch.raised = true ↔
      devices.Disturbed usage (readings + 1) := by
  simp only [heard, Bool.or_eq_true, latch, reads, disturbed_succ]

/-- A sleep that is not interrupted leaves the latch as it was. -/
theorem latch_slept_of_rested {span : Span}
    (rested : devices.napAfter usage 0 0 = .rested) :
    (devices.slept usage span).latch = usage.latch := by
  rw [slept]
  rw [napAfter] at rested
  cases made : devices.bedding with
  | prepared => simp
  | latched =>
    simp only [made, disturbed_zero] at rested
    rcases lowered : usage.latch with ⟨_ | _⟩
    · simp
    · simp [lowered] at rested
  | plain => simp

variable (devices) (usage)

/-- What the clock tells so many readings from now. -/
def millisAt (ahead : Nat) : Option UInt64 :=
  (devices.reading (usage.reads + ahead)).millis?

/-- None of the next sleeps is interrupted, if the clock is read before each. -/
def Undisturbed (naps : Nat) : Prop :=
  ∀ ahead < naps, devices.napAfter usage (ahead + 1) ahead = .rested

/-- The sleep after so many undisturbed ones is the first to be interrupted. -/
def FirstInterrupted (naps : Nat) : Prop :=
  devices.Undisturbed usage naps ∧
    devices.napAfter usage (naps + 1) naps = .interrupted

instance (naps : Nat) : Decidable (devices.Undisturbed usage naps) :=
  inferInstanceAs (Decidable (∀ ahead < naps, _))

instance (naps : Nat) : Decidable (devices.FirstInterrupted usage naps) :=
  inferInstanceAs (Decidable (_ ∧ _))

variable {devices} {usage}

/-- Only one sleep is the first to be interrupted. -/
theorem FirstInterrupted.unique {first second : Nat}
    (here : devices.FirstInterrupted usage first)
    (there : devices.FirstInterrupted usage second) : first = second := by
  rcases Nat.lt_trichotomy first second with before | same | after
  · have rested := there.1 first before
    rw [here.2] at rested
    cases rested
  · exact same
  · have rested := here.1 second after
    rw [there.2] at rested
    cases rested

end Devices

namespace Generator

open Devices

/-! ## Rounds -/

section

variable (devices : Devices)

/-- What a wait does between two readings: it sleeps, unless it has been
interrupted. -/
def doze (interrupted : Bool) (usage : Usage) : Ending Bool × Usage :=
  if interrupted then (.returned true, usage) else devices.sleep usage clockTick

/-- A wait that is about to read the clock. -/
def waitOn (last : UInt64) (patience : Nat) (interrupted : Bool) (usage : Usage) :
    Option (Ending (UInt64 × Bool) × Usage) :=
  match devices.readClock usage with
  | (.panicked message, read) => some (.panicked message, read)
  | (.returned now, read) => wait devices last patience interrupted now read

/-- A wait is over as soon as the clock reads something else. -/
theorem wait_of_ne {last now : UInt64} (other : now ≠ last) (patience : Nat)
    (interrupted : Bool) (usage : Usage) :
    wait devices last patience interrupted now usage =
      some (.returned (now, interrupted), usage) := by
  cases patience with
  | zero => rw [wait, if_pos other]
  | succ patience => rw [wait, if_pos other]

theorem wait_zero (last : UInt64) (interrupted : Bool) (usage : Usage) :
    wait devices last 0 interrupted last usage = none := by
  rw [wait, if_neg (fun other => other rfl)]

theorem wait_succ (last : UInt64) (patience : Nat) (interrupted : Bool)
    (usage : Usage) :
    wait devices last (patience + 1) interrupted last usage =
      match doze devices interrupted usage with
      | (.panicked message, rested) => some (.panicked message, rested)
      | (.returned interrupted, rested) =>
        waitOn devices last patience interrupted rested := by
  rw [wait, if_neg (fun other => other rfl), doze]
  generalize (if interrupted = true then (Ending.returned true, usage)
    else devices.sleep usage clockTick) = nap
  rcases nap with ⟨_ | _, rested⟩
  · rfl
  · rfl

end

/-- In so many rounds in a row the clock has told `last`, and no device has panicked.
Tells whether one of the sleeps was interrupted. -/
inductive Idles (devices : Devices) (last : UInt64) (usage : Usage) :
    Nat → Bool → Usage → Prop
  | none : Idles devices last usage 0 false usage
  | more {rounds : Nat} {mark next : Bool} {idle rested : Usage}
      (before : Idles devices last usage rounds mark idle)
      (told : (devices.reading idle.reads).millis? = some last)
      (dozed : doze devices mark (devices.heard idle) = (.returned next, rested)) :
      Idles devices last usage (rounds + 1) next rested

/-- How far the devices have been used after so many rounds. -/
structure Idled (devices : Devices) (last : UInt64) (usage : Usage) (rounds : Nat)
    (mark : Bool) (idle : Usage) : Prop where
  reads : idle.reads = usage.reads + rounds
  draws : idle.draws = usage.draws
  restores : idle.restores = usage.restores
  told : ∀ ahead < rounds, devices.millisAt usage ahead = some last
  quiet : mark = false → devices.Undisturbed usage rounds ∧
    idle.naps = usage.naps ++ .replicate rounds clockTick ∧
    (idle.latch.raised = true ↔ devices.Disturbed usage rounds)
  startled : mark = true → ∃ first < rounds, devices.FirstInterrupted usage first ∧
    idle.naps = usage.naps ++ .replicate (first + 1) clockTick

variable {devices : Devices} {last : UInt64} {usage : Usage}

section

variable {rounds : Nat} {idle : Usage}

/-- The reading that comes next is the one so many rounds after the start. -/
theorem Idled.millisAt_eq {mark : Bool}
    (idled : Idled devices last usage rounds mark idle) :
    devices.millisAt usage rounds = (devices.reading idle.reads).millis? := by
  rw [millisAt, idled.reads]

theorem Idled.reads_succ {mark : Bool}
    (idled : Idled devices last usage rounds mark idle) :
    (devices.heard idle).reads = usage.reads + (rounds + 1) := by
  rw [reads_heard, idled.reads, Nat.add_assoc]

/-- While nothing has interrupted the wait, the latch shows all that was raised. -/
theorem Idled.latch_heard (idled : Idled devices last usage rounds false idle) :
    (devices.heard idle).latch.raised = true ↔ devices.Disturbed usage (rounds + 1) := by
  obtain ⟨_, _, latch⟩ := idled.quiet rfl
  exact raised_heard_iff idled.reads latch

/-- The next sleep of an undisturbed wait. -/
theorem Idled.nap_eq (idled : Idled devices last usage rounds false idle) :
    devices.napAfter (devices.heard idle) 0 0 =
      devices.napAfter usage (rounds + 1) rounds := by
  obtain ⟨_, naps, _⟩ := idled.quiet rfl
  apply napAfter_of_later
  · simp only [heard, naps, Array.size_append, Array.size_replicate]
  · exact idled.latch_heard

/-- The naps of an undisturbed wait after one more sleep. -/
theorem Idled.naps_slept (idled : Idled devices last usage rounds false idle) :
    (devices.slept (devices.heard idle) clockTick).naps =
      usage.naps ++ .replicate (rounds + 1) clockTick := by
  obtain ⟨_, naps, _⟩ := idled.quiet rfl
  simp only [slept, heard, naps, Array.push_append, Array.replicate_succ]

/-- One more round, the readings of which agree with those before. -/
theorem Idled.told_succ {mark : Bool} (idled : Idled devices last usage rounds mark idle)
    (told : (devices.reading idle.reads).millis? = some last) :
    ∀ ahead < rounds + 1, devices.millisAt usage ahead = some last := by
  intro ahead within
  rcases Nat.lt_succ_iff_lt_or_eq.mp within with earlier | rfl
  · exact idled.told ahead earlier
  · rw [idled.millisAt_eq]
    exact told

/-- Nothing interrupts the sleep of one more round. -/
theorem Idled.rest (idled : Idled devices last usage rounds false idle)
    (told : (devices.reading idle.reads).millis? = some last)
    (rested : devices.napAfter (devices.heard idle) 0 0 = .rested) :
    Idled devices last usage (rounds + 1) false
      (devices.slept (devices.heard idle) clockTick) where
  reads := congrArg (· + 1) idled.reads
  draws := idled.draws
  restores := idled.restores
  told := idled.told_succ told
  quiet := by
    intro _
    refine ⟨?_, idled.naps_slept, ?_⟩
    · intro ahead within
      rcases Nat.lt_succ_iff_lt_or_eq.mp within with earlier | rfl
      · exact (idled.quiet rfl).1 ahead earlier
      · rw [← idled.nap_eq]
        exact rested
    · rw [latch_slept_of_rested rested]
      exact idled.latch_heard
  startled := by
    intro marked
    cases marked

/-- The sleep of one more round is the first to be interrupted. -/
theorem Idled.startle (idled : Idled devices last usage rounds false idle)
    (told : (devices.reading idle.reads).millis? = some last)
    (interrupted : devices.napAfter (devices.heard idle) 0 0 = .interrupted) :
    Idled devices last usage (rounds + 1) true
      (devices.slept (devices.heard idle) clockTick) where
  reads := congrArg (· + 1) idled.reads
  draws := idled.draws
  restores := idled.restores
  told := idled.told_succ told
  quiet := by
    intro unmarked
    cases unmarked
  startled := by
    intro _
    refine ⟨rounds, by omega, ⟨(idled.quiet rfl).1, ?_⟩, idled.naps_slept⟩
    rw [← idled.nap_eq]
    exact interrupted

/-- A wait that was interrupted before does not sleep in one more round. -/
theorem Idled.skip (idled : Idled devices last usage rounds true idle)
    (told : (devices.reading idle.reads).millis? = some last) :
    Idled devices last usage (rounds + 1) true (devices.heard idle) where
  reads := congrArg (· + 1) idled.reads
  draws := idled.draws
  restores := idled.restores
  told := idled.told_succ told
  quiet := by
    intro unmarked
    cases unmarked
  startled := by
    intro _
    obtain ⟨first, within, interrupted, naps⟩ := idled.startled rfl
    exact ⟨first, by omega, interrupted, naps⟩

end

theorem idled_zero : Idled devices last usage 0 false usage where
  reads := rfl
  draws := rfl
  restores := rfl
  told := by
    intro ahead before
    omega
  quiet := by
    intro _
    refine ⟨?_, by simp, disturbed_zero.symm⟩
    intro ahead before
    omega
  startled := by
    intro marked
    cases marked

theorem doze_true (devices : Devices) (usage : Usage) :
    doze devices true usage = (.returned true, usage) :=
  rfl

theorem doze_false (devices : Devices) (usage : Usage) :
    doze devices false usage =
      ((devices.napAfter usage 0 0).ending, devices.slept usage clockTick) :=
  devices.sleep_eq usage clockTick

theorem Idles.idled {rounds : Nat} {mark : Bool} {idle : Usage}
    (idles : Idles devices last usage rounds mark idle) :
    Idled devices last usage rounds mark idle := by
  induction idles with
  | none => exact idled_zero
  | @more rounds mark next idle rested before told dozed ih =>
    cases mark with
    | true =>
      rw [doze_true] at dozed
      cases dozed
      exact ih.skip told
    | false =>
      rw [doze_false] at dozed
      cases nap : devices.napAfter (devices.heard idle) 0 0 with
      | rested =>
        rw [nap] at dozed
        cases dozed
        exact ih.rest told nap
      | interrupted =>
        rw [nap] at dozed
        cases dozed
        exact ih.startle told nap
      | failure message =>
        rw [nap] at dozed
        cases dozed

/-- Rounds go on as long as the clock tells the same and no sleep fails. -/
theorem exists_idles {rounds : Nat}
    (told : ∀ ahead < rounds, devices.millisAt usage ahead = some last)
    (naps : ∀ ahead < rounds, devices.Undisturbed usage ahead → ∀ message,
      devices.napAfter usage (ahead + 1) ahead ≠ .failure message) :
    ∃ mark idle, Idles devices last usage rounds mark idle := by
  induction rounds with
  | zero => exact ⟨false, usage, .none⟩
  | succ rounds ih =>
    obtain ⟨mark, idle, idles⟩ := ih (fun ahead before => told ahead (by omega))
      (fun ahead before => naps ahead (by omega))
    have idled := idles.idled
    have again : (devices.reading idle.reads).millis? = some last := by
      rw [← idled.millisAt_eq]
      exact told rounds (by omega)
    cases mark with
    | true => exact ⟨true, _, .more idles again (doze_true _ _)⟩
    | false =>
      have sound := naps rounds (by omega) (idled.quiet rfl).1
      rw [← idled.nap_eq] at sound
      have dozed := doze_false devices (devices.heard idle)
      cases nap : devices.napAfter (devices.heard idle) 0 0 with
      | rested =>
        rw [nap] at dozed
        exact ⟨false, _, .more idles again dozed⟩
      | interrupted =>
        rw [nap] at dozed
        exact ⟨true, _, .more idles again dozed⟩
      | failure message => exact absurd nap (sound message)

/-! ## The end of a wait -/

theorem waitOn_of_told {patience : Nat} {interrupted : Bool} {now : UInt64}
    (told : (devices.reading usage.reads).millis? = some now) :
    waitOn devices last patience interrupted usage =
      wait devices last patience interrupted now (devices.heard usage) := by
  rw [waitOn, readClock_eq, Reading.ending_eq_returned_iff.mpr told]

theorem waitOn_of_failure {patience : Nat} {interrupted : Bool} {message : String}
    (failed : devices.reading usage.reads = .failure message) :
    waitOn devices last patience interrupted usage =
      some (.panicked message, devices.heard usage) := by
  rw [waitOn, readClock_eq, Reading.ending_eq_panicked_iff.mpr failed]

/-- Rounds use up patience and change nothing else about what is left of a wait. -/
theorem Idles.waitOn_add {rounds : Nat} {mark : Bool} {idle : Usage}
    (idles : Idles devices last usage rounds mark idle) (patience : Nat) :
    waitOn devices last (patience + rounds) false usage =
      waitOn devices last patience mark idle := by
  induction idles generalizing patience with
  | none => rfl
  | @more rounds mark next idle rested before told dozed ih =>
    calc
      waitOn devices last (patience + (rounds + 1)) false usage =
          waitOn devices last (patience + 1 + rounds) false usage := by
        rw [Nat.add_right_comm, Nat.add_assoc]
      _ = waitOn devices last (patience + 1) mark idle := ih (patience + 1)
      _ = wait devices last (patience + 1) mark last (devices.heard idle) :=
        waitOn_of_told told
      _ = waitOn devices last patience next rested := by
        rw [wait_succ, dozed]

/-- A wait is over when the clock tells something else. Any patience that lasts so
long will do. -/
theorem Idles.awaitTick_eq {rounds patience : Nat} {mark : Bool} {idle : Usage}
    {now : UInt64} (idles : Idles devices last usage rounds mark idle)
    (told : (devices.reading idle.reads).millis? = some now) (other : now ≠ last)
    (lasting : rounds ≤ patience) :
    awaitTick devices last patience usage =
      some (.returned (now, mark), devices.heard idle) := by
  have waited := idles.waitOn_add (patience - rounds)
  rw [Nat.sub_add_cancel lasting, waitOn_of_told told, wait_of_ne devices other] at waited
  exact waited

/-- The ways in which a wait ends: the clock tells something else or fails, or a sleep
fails. -/
inductive Awaits (devices : Devices) (last : UInt64) (usage : Usage) :
    Ending (UInt64 × Bool) → Usage → Prop
  | settled {rounds : Nat} {mark : Bool} {idle : Usage} {now : UInt64}
      (idles : Idles devices last usage rounds mark idle)
      (told : (devices.reading idle.reads).millis? = some now) (other : now ≠ last) :
      Awaits devices last usage (.returned (now, mark)) (devices.heard idle)
  | unread {rounds : Nat} {mark : Bool} {idle : Usage} {message : String}
      (idles : Idles devices last usage rounds mark idle)
      (failed : devices.reading idle.reads = .failure message) :
      Awaits devices last usage (.panicked message) (devices.heard idle)
  | unrested {rounds : Nat} {idle : Usage} {message : String}
      (idles : Idles devices last usage rounds false idle)
      (told : (devices.reading idle.reads).millis? = some last)
      (failed : devices.napAfter (devices.heard idle) 0 0 = .failure message) :
      Awaits devices last usage (.panicked message)
        (devices.slept (devices.heard idle) clockTick)

/-- A doze comes back, unless a sleep fails that was not interrupted before. -/
theorem doze_cases (devices : Devices) (mark : Bool) (usage : Usage) :
    (∃ next rested, doze devices mark usage = (.returned next, rested)) ∨
      ∃ message, mark = false ∧ devices.napAfter usage 0 0 = .failure message ∧
        doze devices mark usage = (.panicked message, devices.slept usage clockTick) := by
  cases mark with
  | true => exact .inl ⟨true, usage, rfl⟩
  | false =>
    rw [doze_false]
    cases nap : devices.napAfter usage 0 0 with
    | rested => exact .inl ⟨false, _, rfl⟩
    | interrupted => exact .inl ⟨true, _, rfl⟩
    | failure message => exact .inr ⟨message, rfl, rfl, rfl⟩

/-- A wait ends as soon as the clock does not tell the same once more. -/
theorem awaits_of_untold {patience rounds : Nat} {mark : Bool} {idle used : Usage}
    {ending : Ending (UInt64 × Bool)}
    (idles : Idles devices last usage rounds mark idle)
    (untold : (devices.reading idle.reads).millis? ≠ some last)
    (waited : waitOn devices last patience mark idle = some (ending, used)) :
    Awaits devices last usage ending used := by
  rcases devices.reading idle.reads |>.told_or_failed with ⟨now, told⟩ | ⟨message, failed⟩
  · have other : now ≠ last := by
      intro same
      exact untold (same ▸ told)
    rw [waitOn_of_told told, wait_of_ne devices other] at waited
    cases waited
    exact .settled idles told other
  · rw [waitOn_of_failure failed] at waited
    cases waited
    exact .unread idles failed

theorem awaits_of_waitOn {patience rounds : Nat} {mark : Bool} {idle used : Usage}
    {ending : Ending (UInt64 × Bool)}
    (idles : Idles devices last usage rounds mark idle)
    (waited : waitOn devices last patience mark idle = some (ending, used)) :
    Awaits devices last usage ending used := by
  induction patience generalizing rounds mark idle with
  | zero =>
    by_cases told : (devices.reading idle.reads).millis? = some last
    · rw [waitOn_of_told told, wait_zero] at waited
      cases waited
    · exact awaits_of_untold idles told waited
  | succ patience ih =>
    by_cases told : (devices.reading idle.reads).millis? = some last
    · rw [waitOn_of_told told, wait_succ] at waited
      rcases doze_cases devices mark (devices.heard idle) with
        ⟨next, rested, dozed⟩ | ⟨message, rfl, failed, dozed⟩
      · rw [dozed] at waited
        exact ih (.more idles told dozed) waited
      · rw [dozed] at waited
        cases waited
        exact .unrested idles told failed
    · exact awaits_of_untold idles told waited

/-- A wait that does not end in time has begun with the millisecond it waits to be
over. -/
theorem told_of_awaitTick_eq_none {patience : Nat}
    (undecided : awaitTick devices last patience usage = none) :
    (devices.reading usage.reads).millis? = some last := by
  have waited : waitOn devices last patience false usage = none := undecided
  rcases (devices.reading usage.reads).told_or_failed with ⟨now, told⟩ | ⟨message, failed⟩
  · by_cases same : now = last
    · exact same ▸ told
    · rw [waitOn_of_told told, wait_of_ne devices same] at waited
      cases waited
  · rw [waitOn_of_failure failed] at waited
    cases waited

/-! ## Assembling -/

section

variable {name : String} {timestamp : UInt64}

theorem assemble_of_told (told : (devices.reading usage.reads).millis? = some timestamp) :
    assemble devices name usage =
      match devices.draw usage.draws with
      | .failure message => (.panicked message, Devices.drawn (devices.heard usage))
      | .nonce nonce =>
        (Token.ofParts name timestamp nonce, Devices.drawn (devices.heard usage)) := by
  rw [assemble, readClock_eq, Reading.ending_eq_returned_iff.mpr told]
  simp only [drawNonce_eq, draws_heard]
  cases devices.draw usage.draws with
  | nonce value => rfl
  | failure message => rfl

/-- A token is assembled of the name, one more reading, and a nonce in range. -/
theorem assemble_eq {nonce : UInt32}
    (told : (devices.reading usage.reads).millis? = some timestamp)
    (draw : devices.draw usage.draws = .nonce nonce)
    (within : nonce.toNat < nonceBound) :
    assemble devices name usage =
      (.returned ⟨name, timestamp, nonce⟩, Devices.drawn (devices.heard usage)) := by
  simp only [assemble_of_told told, draw, Token.ofParts, if_pos within]

theorem assemble_of_failing_draw {message : String}
    (told : (devices.reading usage.reads).millis? = some timestamp)
    (failed : devices.draw usage.draws = .failure message) :
    assemble devices name usage =
      (.panicked message, Devices.drawn (devices.heard usage)) := by
  simp only [assemble_of_told told, failed]

end

/-- The ways in which no token can be assembled. -/
inductive Unmade (devices : Devices) (usage : Usage) : String → Usage → Prop
  | clock {message : String} (failed : devices.reading usage.reads = .failure message) :
      Unmade devices usage message (devices.heard usage)
  | draw {timestamp : UInt64} {message : String}
      (told : (devices.reading usage.reads).millis? = some timestamp)
      (failed : devices.draw usage.draws = .failure message) :
      Unmade devices usage message (Devices.drawn (devices.heard usage))
  | nonce {timestamp : UInt64} {nonce : UInt32}
      (told : (devices.reading usage.reads).millis? = some timestamp)
      (draw : devices.draw usage.draws = .nonce nonce)
      (beyond : nonceBound ≤ nonce.toNat) :
      Unmade devices usage ("nonce out of range: " ++ Numeral.render nonce.toNat)
        (Devices.drawn (devices.heard usage))

theorem Unmade.reads_le {message : String} {used : Usage}
    (unmade : Unmade devices usage message used) : usage.reads ≤ used.reads := by
  cases unmade with
  | clock | draw | nonce => simp

/-- Assembling does not sleep. -/
theorem Unmade.naps_eq {message : String} {used : Usage}
    (unmade : Unmade devices usage message used) : used.naps = usage.naps := by
  cases unmade with
  | clock | draw | nonce => simp

theorem assemble_cases (devices : Devices) (name : String) (usage : Usage) :
    (∃ timestamp nonce, (devices.reading usage.reads).millis? = some timestamp ∧
      devices.draw usage.draws = .nonce nonce ∧ nonce.toNat < nonceBound) ∨
    ∃ message used, Unmade devices usage message used ∧
      assemble devices name usage = (.panicked message, used) := by
  rcases (devices.reading usage.reads).told_or_failed with ⟨now, told⟩ | ⟨message, failed⟩
  · cases draw : devices.draw usage.draws with
    | nonce nonce =>
      by_cases within : nonce.toNat < nonceBound
      · exact .inl ⟨now, nonce, told, rfl, within⟩
      · right
        refine ⟨_, _, .nonce told draw (Nat.le_of_not_lt within), ?_⟩
        simp only [assemble_of_told told, draw, Token.ofParts, if_neg within]
    | failure message =>
      exact .inr ⟨message, _, .draw told draw, assemble_of_failing_draw told draw⟩
  · right
    refine ⟨message, _, .clock failed, ?_⟩
    rw [assemble, readClock_eq, Reading.ending_eq_panicked_iff.mpr failed]

/-! ## Minting -/

/-- The ways in which a call can end: what it hands back, the state that it leaves, and
how far it has used the devices. -/
inductive Course (devices : Devices) (name : String) (before : Generator)
    (usage : Usage) : Ending (Except Fault Minted) → Generator → Usage → Prop
  | refused (poisoned : before.poisoned = true) :
      Course devices name before usage (.returned (.error .lockPoisoned)) before usage
  | unread {rounds : Nat} {mark : Bool} {idle : Usage} {message : String}
      (healthy : before.poisoned = false)
      (idles : Idles devices before.last usage rounds mark idle)
      (failed : devices.reading idle.reads = .failure message) :
      Course devices name before usage (.panicked message) ⟨before.last, true⟩
        (devices.heard idle)
  | unrested {rounds : Nat} {idle : Usage} {message : String}
      (healthy : before.poisoned = false)
      (idles : Idles devices before.last usage rounds false idle)
      (told : (devices.reading idle.reads).millis? = some before.last)
      (failed : devices.napAfter (devices.heard idle) 0 0 = .failure message) :
      Course devices name before usage (.panicked message) ⟨before.last, true⟩
        (devices.slept (devices.heard idle) clockTick)
  | unmade {rounds : Nat} {mark : Bool} {idle used : Usage} {now : UInt64}
      {message : String} (healthy : before.poisoned = false)
      (idles : Idles devices before.last usage rounds mark idle)
      (told : (devices.reading idle.reads).millis? = some now)
      (other : now ≠ before.last) (failed : Unmade devices (devices.heard idle) message used) :
      Course devices name before usage (.panicked message) ⟨now, true⟩ used
  | minted {rounds : Nat} {mark : Bool} {idle : Usage} {now timestamp : UInt64}
      {nonce : UInt32} (healthy : before.poisoned = false)
      (idles : Idles devices before.last usage rounds mark idle)
      (told : (devices.reading idle.reads).millis? = some now)
      (other : now ≠ before.last)
      (stamped : (devices.reading (idle.reads + 1)).millis? = some timestamp)
      (draw : devices.draw idle.draws = .nonce nonce)
      (within : nonce.toNat < nonceBound) :
      Course devices name before usage
        (.returned (.ok ⟨⟨name, timestamp, nonce⟩, mark⟩)) ⟨now, false⟩
        (if mark then devices.restore (Devices.drawn (devices.heard (devices.heard idle)))
          else Devices.drawn (devices.heard (devices.heard idle)))

/-- A call reads the clock exactly if it is not refused. -/
theorem Course.reads_lt_iff {name : String} {before after : Generator}
    {ending : Ending (Except Fault Minted)} {used : Usage}
    (course : Course devices name before usage ending after used) :
    usage.reads < used.reads ↔ before.poisoned = false := by
  cases course with
  | refused poisoned => simp [poisoned]
  | unread healthy idles | unrested healthy idles =>
    have reads := idles.idled.reads
    simp only [reads_slept, reads_heard, healthy, iff_true]
    omega
  | unmade healthy idles _ _ unmade =>
    have reads := idles.idled.reads
    have later := unmade.reads_le
    simp only [reads_heard, healthy, iff_true] at later ⊢
    omega
  | minted healthy idles =>
    have reads := idles.idled.reads
    simp only [reads_restore_if, reads_drawn, reads_heard, healthy, iff_true]
    omega

/-- No call takes a reading back. -/
theorem Course.reads_le {name : String} {before after : Generator}
    {ending : Ending (Except Fault Minted)} {used : Usage}
    (course : Course devices name before usage ending after used) :
    usage.reads ≤ used.reads := by
  cases health : before.poisoned with
  | false => exact Nat.le_of_lt (course.reads_lt_iff.mpr health)
  | true =>
    cases course with
    | refused => exact Nat.le_refl _
    | unread healthy | unrested healthy | unmade healthy | minted healthy =>
      rw [healthy] at health
      cases health

theorem course_of_mint {patience : Nat} {name : String} {before after : Generator}
    {ending : Ending (Except Fault Minted)} {used : Usage}
    (called : before.mint devices patience name usage = some (ending, after, used)) :
    Course devices name before usage ending after used := by
  rcases before with ⟨last, _ | _⟩
  · rw [mint, if_neg Bool.false_ne_true] at called
    rcases waited : awaitTick devices last patience usage with
      _ | ⟨⟨now, mark⟩ | message, between⟩
    · simp only [waited] at called
      cases called
    · simp only [waited] at called
      cases awaits_of_waitOn .none waited with
      | @settled rounds _ idle _ idles told other =>
        rcases assemble_cases devices name (devices.heard idle) with
          ⟨timestamp, nonce, stamped, draw, within⟩ | ⟨message, finished, failed, made⟩
        · simp only [assemble_eq stamped draw within] at called
          cases called
          exact .minted rfl idles told other stamped draw within
        · simp only [made] at called
          cases called
          exact .unmade rfl idles told other failed
    · simp only [waited] at called
      cases called
      cases awaits_of_waitOn .none waited with
      | unread idles failed => exact .unread rfl idles failed
      | unrested idles told failed => exact .unrested rfl idles told failed
  · rw [mint, if_pos rfl] at called
    cases called
    exact .refused rfl

/-- A call that does not come back has not been refused, and has first read what was
recorded. -/
theorem told_of_mint_eq_none {patience : Nat} {name : String} {before : Generator}
    (undecided : before.mint devices patience name usage = none) :
    before.poisoned = false ∧ devices.millisAt usage 0 = some before.last := by
  rcases before with ⟨last, _ | _⟩
  · rw [mint, if_neg Bool.false_ne_true] at undecided
    rcases waited : awaitTick devices last patience usage with
      _ | ⟨⟨now, mark⟩ | message, between⟩
    · exact ⟨rfl, told_of_awaitTick_eq_none waited⟩
    · simp only [waited] at undecided
      rcases made : assemble devices name between with ⟨_ | _, _⟩
      · simp only [made] at undecided
        cases undecided
      · simp only [made] at undecided
        cases undecided
    · simp only [waited] at undecided
      cases undecided
  · rw [mint, if_pos rfl] at undecided
    cases undecided

end Generator
end Carousel
