/-
# What a call at a mint does

A call that asks for a token runs its course under the lock of one family, and changes
nothing but the state of that family and the devices. What it answers is how the
course ends, except that the insisting call turns a refusal into a panic. Any other
call leaves the families that exist as they are.

`Reached` relates the mints before and after a run of calls. A run is taken apart at
either end: facts about all that follows are proved from its first call, and facts
about all that came before from its last one.
-/

import Carousel.Proofs.Journal

namespace Carousel

namespace Mint

open Generator

/-- What a minting call answers when its course has come to an end. -/
def Call.report : Call → Ending (Except Fault Minted) → Ending (Except Fault Minted)
  | .mint _ _, ending => (insist ending).map .ok
  | _, ending => ending

@[simp]
theorem Call.report_panicked (call : Call) (message : String) :
    call.report (.panicked message) = .panicked message := by
  cases call <;> rfl

@[simp]
theorem Call.report_minted (call : Call) (minted : Minted) :
    call.report (.returned (.ok minted)) = .returned (.ok minted) := by
  cases call <;> rfl

/-- What a call hands back, its course has ended with. -/
theorem Call.eq_of_report_eq_returned {call : Call}
    {ending : Ending (Except Fault Minted)} {result : Except Fault Minted}
    (reported : call.report ending = .returned result) : ending = .returned result := by
  cases call with
  | mint generator name =>
    rcases ending with (fault | minted) | message
    · cases reported
    · cases reported
      rfl
    · cases reported
  | _ => exact reported

variable {devices : Devices} {patience : Nat} {mint after : Mint} {call : Call}
  {answer : Answer} {generator : Nat}

/-- A call that asks for a token has its generator mint one, and reports what came of
it. -/
theorem exists_perform_eq (devices : Devices) (patience : Nat) (mint : Mint)
    (asked : call.minter? = some generator) :
    ∃ name, mint.perform devices patience call =
      (mint.strike devices patience generator name).map fun (ending, after) =>
        (.minted (call.report ending), after) := by
  cases call with
  | tryMint _ name | mint _ name =>
    cases asked
    exact ⟨name, rfl⟩
  | _ => cases asked

/-- A call that asks for a token runs its course in the family of its generator. -/
theorem course_of_perform (asked : call.minter? = some generator)
    (performed : mint.perform devices patience call = some (answer, after)) :
    ∃ name ending state, answer = .minted (call.report ending) ∧
      after = { mint with
        families := mint.families.set (mint.familyOf generator) state
        usage := after.usage } ∧
      Course devices name (mint.state generator) mint.usage ending state after.usage := by
  obtain ⟨name, performs⟩ := exists_perform_eq devices patience mint asked
  rw [performs, Option.map_eq_some_iff] at performed
  obtain ⟨⟨ending, result⟩, struck, same⟩ := performed
  cases same
  rw [strike] at struck
  rcases called : (mint.state generator).mint devices patience name mint.usage with
    _ | ⟨found, state, usage⟩
  · simp only [called] at struck
    cases struck
  · simp only [called] at struck
    cases struck
    exact ⟨name, ending, state, rfl, rfl, course_of_mint called⟩

/-- A call that does not come back has not been refused, and has first read what was
recorded. -/
theorem told_of_perform_eq_none (asked : call.minter? = some generator)
    (undecided : mint.perform devices patience call = none) :
    (mint.state generator).poisoned = false ∧
      devices.millisAt mint.usage 0 = some (mint.state generator).last := by
  obtain ⟨name, performs⟩ := exists_perform_eq devices patience mint asked
  rw [performs, Option.map_eq_none_iff, strike] at undecided
  rcases called : (mint.state generator).mint devices patience name mint.usage with
    _ | ⟨found, state, usage⟩
  · exact told_of_mint_eq_none called
  · simp only [called] at undecided
    cases undecided

/-! ## Runs -/

/-- The calls, one after the other, lead from one mint to another. -/
def Reached (devices : Devices) (patience : Nat) (calls : List Call)
    (start final : Mint) : Prop :=
  ∃ answers, start.performAll devices patience calls = some (answers, final)

variable {start final : Mint} {calls rest : List Call}

@[simp]
theorem reached_nil : Reached devices patience [] start final ↔ start = final := by
  simp [Reached, performAll]

theorem reached_cons :
    Reached devices patience (call :: rest) start final ↔
      ∃ answer after, start.perform devices patience call = some (answer, after) ∧
        Reached devices patience rest after final := by
  constructor
  · rintro ⟨answers, ran⟩
    rw [performAll] at ran
    rcases performed : start.perform devices patience call with _ | ⟨answer, after⟩
    · simp only [performed] at ran
      cases ran
    · rcases continued : after.performAll devices patience rest with _ | ⟨later, last⟩
      · simp only [performed, continued] at ran
        cases ran
      · simp only [performed, continued] at ran
        cases ran
        exact ⟨answer, after, rfl, later, continued⟩
  · rintro ⟨answer, after, performed, answers, continued⟩
    refine ⟨answer :: answers, ?_⟩
    rw [performAll]
    simp only [performed, continued]

theorem reached_append :
    Reached devices patience (calls ++ rest) start final ↔
      ∃ between, Reached devices patience calls start between ∧
        Reached devices patience rest between final := by
  induction calls generalizing start with
  | nil => simp
  | cons call calls ih =>
    simp only [List.cons_append, reached_cons, ih]
    constructor
    · rintro ⟨answer, after, performed, between, led, leads⟩
      exact ⟨between, ⟨answer, after, performed, led⟩, leads⟩
    · rintro ⟨between, ⟨answer, after, performed, led⟩, leads⟩
      exact ⟨answer, after, performed, between, led, leads⟩

theorem reached_concat :
    Reached devices patience (calls ++ [call]) start final ↔
      ∃ between answer, Reached devices patience calls start between ∧
        between.perform devices patience call = some (answer, final) := by
  simp only [reached_append, reached_cons, reached_nil]
  constructor
  · rintro ⟨between, led, answer, _, performed, rfl⟩
    exact ⟨between, answer, led, performed⟩
  · rintro ⟨between, answer, led, performed⟩
    exact ⟨between, led, answer, final, performed, rfl⟩

theorem Housed.reached (housed : start.Housed)
    (led : Reached devices patience calls start final) : final.Housed := by
  induction calls generalizing start with
  | nil =>
    cases reached_nil.mp led
    exact housed
  | cons call rest ih =>
    obtain ⟨answer, after, performed, leads⟩ := reached_cons.mp led
    exact ih (performed_of_perform housed performed 0).housed leads

/-- A family that is poisoned stays so. -/
theorem poisoned_of_perform (housed : mint.Housed) {family : Nat}
    (performed : mint.perform devices patience call = some (answer, after))
    (poisoned : (mint.family family).poisoned = true) :
    (after.family family).poisoned = true := by
  obtain ⟨_, _, effect⟩ := performed_of_perform housed performed family
  generalize entryOf family mint call answer after = entry at effect
  cases effect with
  | handed struck =>
    rw [struck.open_before] at poisoned
    cases poisoned
  | kept same =>
    rw [same]
    exact poisoned
  | poisoned still => exact still

theorem poisoned_of_reached (housed : start.Housed) {family : Nat}
    (led : Reached devices patience calls start final)
    (poisoned : (start.family family).poisoned = true) :
    (final.family family).poisoned = true := by
  induction calls generalizing start with
  | nil =>
    cases reached_nil.mp led
    exact poisoned
  | cons call rest ih =>
    obtain ⟨answer, after, performed, leads⟩ := reached_cons.mp led
    exact ih (performed_of_perform housed performed family).housed leads
      (poisoned_of_perform housed performed poisoned)

end Mint

end Carousel
