/-
# Interrupts that minting neither loses nor invents

Generators may share a latch that others raise. A sleep lowers it, so a call that was
interrupted raises it again in the end. Whatever else was raised meanwhile then shows
as well, for a raised latch says only that something was raised. A call that was not
interrupted has never found the latch raised, so it has lowered nothing.

So a call leaves the latch raised exactly if it was raised before, or if one of the
call's own readings has raised it. Which of the two an interrupted call was told of is
not recorded, and need not be: until somebody sleeps again, the latch stays raised.
-/

import Carousel.Proofs.Expense
import Carousel.Proofs.Striking

namespace Carousel

namespace Generator

variable {devices : Devices} {usage used : Usage} {last : UInt64}

/-! ## One call -/

theorem napAfter_eq_interrupted_iff (latched : devices.bedding = .latched)
    {readings naps : Nat} :
    devices.napAfter usage readings naps = .interrupted ↔
      devices.Disturbed usage readings := by
  simp [Devices.napAfter, latched]

/-- On a latch, a wait is interrupted exactly if it was disturbed before its last
sleep. -/
theorem Idled.mark_eq_true_iff_disturbed {rounds : Nat} {mark : Bool} {idle : Usage}
    (idled : Idled devices last usage rounds mark idle)
    (latched : devices.bedding = .latched) :
    mark = true ↔ 0 < rounds ∧ devices.Disturbed usage rounds := by
  constructor
  · intro marked
    obtain ⟨first, within, interrupted, _⟩ := idled.startled marked
    have disturbed := (napAfter_eq_interrupted_iff latched).mp interrupted.2
    exact ⟨by omega, disturbed.mono within⟩
  · rintro ⟨gone, disturbed⟩
    cases mark with
    | true => rfl
    | false =>
      have rested := (idled.quiet rfl).1 (rounds - 1) (by omega)
      rw [Nat.sub_add_cancel gone] at rested
      rw [(napAfter_eq_interrupted_iff latched).mpr disturbed] at rested
      cases rested

variable {name : String} {before after : Generator}

/-- A call that comes back leaves the latch raised exactly if it was raised at the
start or by one of the call's readings. -/
theorem Course.raised_iff {result : Except Fault Minted}
    (course : Course devices name before usage (.returned result) after used)
    (latched : devices.bedding = .latched) :
    used.latch.raised = true ↔
      devices.Disturbed usage (used.reads - usage.reads) := by
  cases course with
  | refused => simp
  | @minted rounds mark idle now timestamp nonce healthy idles =>
    have idled := idles.idled
    have reads := idled.spent.reads
    rw [reads, Nat.add_sub_cancel_left]
    cases mark with
    | true =>
      have disturbed := ((idled.mark_eq_true_iff_disturbed latched).mp rfl).2
      simp [Devices.restore_eq, latched, Latch.raise, disturbed.mono (Nat.le_add_right _ 2)]
    | false =>
      simpa using Devices.raised_heard_iff idled.reads_succ idled.latch_heard

/-- A call that hands out a token has read the clock twice more than it told the same
as was recorded, and has been interrupted exactly if it had to wait and was disturbed
before its last sleep. -/
theorem Course.interrupted_iff {minted : Minted}
    (course : Course devices name before usage (.returned (.ok minted)) after used)
    (latched : devices.bedding = .latched) :
    ∃ count, used.reads = usage.reads + (count + 2) ∧
      (∀ ahead < count, devices.millisAt usage ahead = some before.last) ∧
      devices.millisAt usage count ≠ some before.last ∧
      (minted.interrupted = true ↔ 0 < count ∧ devices.Disturbed usage count) := by
  cases course with
  | @minted rounds mark idle now timestamp nonce healthy idles told other =>
    have idled := idles.idled
    have untold : devices.millisAt usage rounds ≠ some before.last := by
      simp [idled.millisAt_eq, told, other]
    exact ⟨rounds, idled.spent.reads, idled.told, untold,
      idled.mark_eq_true_iff_disturbed latched⟩

/-! ## Until the next sleep -/

theorem raised_heard (raised : usage.latch.raised = true) :
    (devices.heard usage).latch.raised = true := by
  simp [Devices.heard, raised]

/-- A wait that does not sleep does not lower the latch. -/
theorem Idled.raised {rounds : Nat} {mark : Bool} {idle : Usage}
    (idled : Idled devices last usage rounds mark idle)
    (unslept : idle.naps = usage.naps) (raised : usage.latch.raised = true) :
    idle.latch.raised = true := by
  obtain ⟨sleeps, naps, some_iff⟩ := idled.exists_sleeps
  have none : rounds = 0 := by
    have unslept := append_replicate_eq_iff.mp (naps.symm.trans unslept)
    omega
  subst none
  cases mark with
  | false =>
    obtain ⟨_, _, latch⟩ := idled.quiet rfl
    exact latch.mpr (.inl raised)
  | true =>
    obtain ⟨first, within, _⟩ := idled.startled rfl
    exact absurd within (Nat.not_lt_zero first)

theorem Unmade.raised {message : String} (unmade : Unmade devices usage message used)
    (raised : usage.latch.raised = true) : used.latch.raised = true := by
  cases unmade with
  | clock | draw | nonce => exact raised_heard raised

/-- A call that does not sleep does not lower the latch, however it ends. -/
theorem Course.raised {ending : Ending (Except Fault Minted)}
    (course : Course devices name before usage ending after used)
    (unslept : used.naps = usage.naps) (raised : usage.latch.raised = true) :
    used.latch.raised = true := by
  cases course with
  | refused => exact raised
  | unread _ idles => exact raised_heard (idles.idled.raised unslept raised)
  | unrested _ idles =>
    have naps := idles.idled.naps_slept.symm.trans unslept
    exact absurd (append_replicate_eq_iff.mp naps) (Nat.succ_ne_zero _)
  | unmade _ idles _ _ unmade =>
    rw [unmade.naps_eq] at unslept
    exact unmade.raised (raised_heard (idles.idled.raised unslept raised))
  | @minted _ mark idle _ _ _ _ idles =>
    have kept : idle.naps = usage.naps := by
      simpa using unslept
    have still : (devices.heard (devices.heard idle)).latch.raised = true :=
      raised_heard (raised_heard (idles.idled.raised kept raised))
    cases mark with
    | true =>
      simp only [if_true, Devices.restore_eq]
      split
      · rfl
      · exact still
    | false => exact still

end Generator

namespace Mint

open Generator

variable {devices : Devices} {patience : Nat} {mint after : Mint} {call : Call}
  {answer : Answer}

/-- No call takes a sleep back. -/
theorem exists_sleeps_of_perform
    (performed : mint.perform devices patience call = some (answer, after)) :
    ∃ sleeps, after.usage.naps = mint.usage.naps ++ .replicate sleeps clockTick := by
  cases asked : call.minter? with
  | some generator =>
    obtain ⟨_, _, _, _, _, course⟩ := course_of_perform asked performed
    obtain ⟨sleeps, naps, _⟩ := course.exists_sleeps
    exact ⟨sleeps, naps⟩
  | none =>
    refine ⟨0, ?_⟩
    cases call with
    | tryMint | mint => cases asked
    | lastTimestamp | newGenerator | cloneGenerator | interrupt | observe =>
      cases performed
      simp

/-- Only a sleep lowers the latch. -/
theorem raised_of_perform
    (performed : mint.perform devices patience call = some (answer, after))
    (unobserved : call ≠ .observe) (unslept : after.usage.naps = mint.usage.naps)
    (raised : mint.usage.latch.raised = true) : after.usage.latch.raised = true := by
  cases asked : call.minter? with
  | some generator =>
    obtain ⟨_, _, _, _, _, course⟩ := course_of_perform asked performed
    exact course.raised unslept raised
  | none =>
    cases call with
    | tryMint | mint => cases asked
    | observe => exact absurd rfl unobserved
    | interrupt =>
      cases performed
      rfl
    | lastTimestamp | newGenerator | cloneGenerator =>
      cases performed
      exact raised

theorem exists_sleeps_of_reached {start final : Mint} {calls : List Call}
    (led : Reached devices patience calls start final) :
    ∃ sleeps, final.usage.naps = start.usage.naps ++ .replicate sleeps clockTick := by
  induction calls generalizing start with
  | nil =>
    cases reached_nil.mp led
    exact ⟨0, by simp⟩
  | cons call rest ih =>
    obtain ⟨answer, after, performed, leads⟩ := reached_cons.mp led
    obtain ⟨first, early⟩ := exists_sleeps_of_perform performed
    obtain ⟨more, late⟩ := ih leads
    refine ⟨first + more, ?_⟩
    rw [late, early, Array.append_assoc, Array.replicate_append_replicate]

/-- Nobody sleeps in the run. -/
structure Wakeful (calls : List Call) (start final : Mint) : Prop where
  unobserved : .observe ∉ calls
  unslept : final.usage.naps = start.usage.naps

/-- If nobody sleeps in a run, then nobody sleeps in its first call or later. -/
theorem Wakeful.split {start final : Mint} {rest : List Call}
    (wakeful : Wakeful (call :: rest) start final)
    (performed : start.perform devices patience call = some (answer, after))
    (leads : Reached devices patience rest after final) :
    call ≠ .observe ∧ after.usage.naps = start.usage.naps ∧
      Wakeful rest after final := by
  obtain ⟨first, early⟩ := exists_sleeps_of_perform performed
  obtain ⟨more, late⟩ := exists_sleeps_of_reached leads
  have unslept := wakeful.unslept
  rw [late, early, Array.append_assoc, Array.replicate_append_replicate] at unslept
  have none := append_replicate_eq_iff.mp unslept
  have start_naps : after.usage.naps = start.usage.naps := by
    rw [early, show first = 0 by omega, Array.replicate_zero, Array.append_empty]
  have unobserved := wakeful.unobserved
  rw [List.mem_cons, not_or] at unobserved
  exact ⟨Ne.symm unobserved.1, start_naps,
    ⟨unobserved.2, wakeful.unslept.trans start_naps.symm⟩⟩

/-- As long as nobody sleeps, a raised latch stays raised. -/
theorem raised_of_reached {start final : Mint} {calls : List Call}
    (led : Reached devices patience calls start final) (wakeful : Wakeful calls start final)
    (raised : start.usage.latch.raised = true) : final.usage.latch.raised = true := by
  induction calls generalizing start with
  | nil =>
    cases reached_nil.mp led
    exact raised
  | cons call rest ih =>
    obtain ⟨answer, after, performed, leads⟩ := reached_cons.mp led
    obtain ⟨unobserved, unslept, later⟩ := wakeful.split performed leads
    exact ih leads later (raised_of_perform performed unobserved unslept raised)

/-- Whoever sleeps next is told of an interrupt, whether it sleeps at once or reads the
clock before, as a minting call does. -/
structure Alarmed (devices : Devices) (mint : Mint) : Prop where
  at_once : ∀ span, (devices.sleep mint.usage span).1 = .returned true
  after_reading : ∀ span,
    (devices.sleep (devices.readClock mint.usage).2 span).1 = .returned true
  observed : ∀ patience, ∃ after,
    mint.perform devices patience .observe = some (.observed true, after)

theorem alarmed_of_raised (latched : devices.bedding = .latched)
    (raised : mint.usage.latch.raised = true) : Alarmed devices mint := by
  have told : ∀ usage : Usage, usage.latch.raised = true → ∀ span,
      (devices.sleep usage span).1 = .returned true := by
    intro usage pending span
    have interrupted : devices.napAfter usage 0 0 = .interrupted :=
      (napAfter_eq_interrupted_iff latched).mpr (.inl pending)
    rw [devices.sleep_eq, interrupted, Nap.ending]
  exact
    { at_once := told mint.usage raised
      after_reading := by
        rw [devices.readClock_eq]
        exact told _ (raised_heard raised)
      observed := by
        intro patience
        simp [perform, Latch.sleep_eq, raised] }

/-- **Interrupts are conserved.** Let generators share a latch, and take any call that
asks one of them for a token and comes back. It leaves the latch raised exactly if it
was raised at the start or by one of the call's readings. If it hands out a token, let
`count` be the number of readings that told the same as was recorded before one told
something else. The call says that it was interrupted exactly if there were any and
the latch was raised at the start or by one of them. When it says so, then whatever is
called afterwards, the next sleep on the latch reports an interrupt. -/
theorem interrupts_conserved (devices : Devices) (latched : devices.bedding = .latched)
    (patience : Nat) (mint after : Mint) (call : Call) (generator : Nat)
    (asked : call.minter? = some generator) (result : Except Fault Minted)
    (performed : mint.perform devices patience call =
      some (.minted (.returned result), after)) :
    (after.usage.latch.raised = true ↔
        devices.Disturbed mint.usage (after.usage.reads - mint.usage.reads)) ∧
      ∀ minted, result = .ok minted →
        (∃ count, after.usage.reads = mint.usage.reads + (count + 2) ∧
          (∀ ahead < count,
            devices.millisAt mint.usage ahead = some (mint.state generator).last) ∧
          devices.millisAt mint.usage count ≠ some (mint.state generator).last ∧
          (minted.interrupted = true ↔
            0 < count ∧ devices.Disturbed mint.usage count)) ∧
        (minted.interrupted = true → ∀ calls later,
          Reached devices patience calls after later → Wakeful calls after later →
            Alarmed devices later) := by
  obtain ⟨name, ending, state, answered, _, course⟩ := course_of_perform asked performed
  have ended : ending = .returned result :=
    Call.eq_of_report_eq_returned (Answer.minted.inj answered).symm
  subst ended
  have raised_iff := course.raised_iff latched
  refine ⟨raised_iff, ?_⟩
  rintro minted rfl
  obtain ⟨count, reads, same, other, interrupted_iff⟩ := course.interrupted_iff latched
  refine ⟨⟨count, reads, same, other, interrupted_iff⟩, ?_⟩
  intro interrupted calls later leads wakeful
  have disturbed := (interrupted_iff.mp interrupted).2
  have raised : after.usage.latch.raised = true := by
    rw [raised_iff, reads, Nat.add_sub_cancel_left]
    exact disturbed.mono (Nat.le_add_right count 2)
  exact alarmed_of_raised latched (raised_of_reached leads wakeful raised)

/-- A clock that stands still for one reading. An interrupt is raised just before that
reading, and another one just before the last. -/
def stirred : DevicePlan where
  clock := .listed #[.interruptedTime 10, .time 11, .interruptedTime 12]
  naps := #[]
  nonces := #[.nonce 7]
  bedding := .latched

theorem interrupts_conserved_stirred :
    ∃ after, stirred.devices.bedding = .latched ∧
      Mint.perform stirred.devices 9 ⟨[⟨10, false⟩], [0], {}⟩ (.tryMint 0 "dock") =
        some (.minted (.returned (.ok ⟨⟨"dock", 12, 7⟩, true⟩)), after) ∧
      after.usage.latch.raised = true ∧ Alarmed stirred.devices after := by
  let after : Mint :=
    ⟨[⟨11, false⟩], [0], ⟨3, 1, #[clockTick], 1, ⟨true⟩⟩⟩
  have performed : Mint.perform stirred.devices 9 ⟨[⟨10, false⟩], [0], {}⟩
      (.tryMint 0 "dock") =
        some (.minted (.returned (.ok ⟨⟨"dock", 12, 7⟩, true⟩)), after) := by
    rfl
  obtain ⟨raised_iff, told⟩ := interrupts_conserved stirred.devices rfl 9
    ⟨[⟨10, false⟩], [0], {}⟩ after (.tryMint 0 "dock") 0 rfl _ performed
  have alarmed := (told _ rfl).2 rfl [] after (reached_nil.mpr rfl)
    ⟨List.not_mem_nil, rfl⟩
  exact ⟨after, rfl, performed, raised_iff.mpr (by decide), alarmed⟩

end Mint

end Carousel
