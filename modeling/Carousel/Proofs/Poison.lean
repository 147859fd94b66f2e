/-
# What a panic under the lock leaves behind

A call may panic at any of its uses of the devices, and at a nonce out of range. If
that happens before the clock has told something else than was recorded, the recorded
millisecond stays as it is, and otherwise it has been replaced. In no case is an
interrupt raised again.

Each panic under a lock poisons the family of the generator, and nothing else does:
along any run of calls, a family is poisoned exactly if one of its generators has
panicked under the lock. From then on all of the family are refused, clones of a later
date included, and refusals do not touch the devices. No other family is affected.
-/

import Carousel.Proofs.Striking
import Carousel.Token.Plan

namespace Carousel

namespace Generator

open Devices

variable {devices : Devices} {usage used : Usage} {name message : String}
  {before after : Generator}

/-- Where a call has panicked that came upon `last`: the message, what it has left
recorded, and how far the devices were used. -/
inductive Mishap (devices : Devices) (last : UInt64) (usage : Usage) :
    String → UInt64 → Usage → Prop
  /-- At a reading, while the clock had told nothing but `last`. -/
  | clock {count : Nat} {message : String} {used : Usage}
      (same : ∀ ahead < count, devices.millisAt usage ahead = some last)
      (failed : devices.reading (usage.reads + count) = .failure message)
      (reads : used.reads = usage.reads + (count + 1))
      (draws : used.draws = usage.draws) : Mishap devices last usage message last used
  /-- At a sleep, while the clock had told nothing but `last`. -/
  | sleep {count : Nat} {message : String} {used : Usage}
      (same : ∀ ahead < count + 1, devices.millisAt usage ahead = some last)
      (rested : devices.Undisturbed usage count)
      (failed : devices.napAfter usage (count + 1) count = .failure message)
      (reads : used.reads = usage.reads + (count + 1))
      (draws : used.draws = usage.draws) : Mishap devices last usage message last used
  /-- At the reading for the token. -/
  | timestamp {count : Nat} {now : UInt64} {message : String} {used : Usage}
      (same : ∀ ahead < count, devices.millisAt usage ahead = some last)
      (told : devices.millisAt usage count = some now) (other : now ≠ last)
      (failed : devices.reading (usage.reads + (count + 1)) = .failure message)
      (reads : used.reads = usage.reads + (count + 2))
      (draws : used.draws = usage.draws) : Mishap devices last usage message now used
  /-- At the draw. -/
  | draw {count : Nat} {now : UInt64} {message : String} {used : Usage}
      (same : ∀ ahead < count, devices.millisAt usage ahead = some last)
      (told : devices.millisAt usage count = some now) (other : now ≠ last)
      (failed : devices.draw usage.draws = .failure message)
      (reads : used.reads = usage.reads + (count + 2))
      (draws : used.draws = usage.draws + 1) : Mishap devices last usage message now used
  /-- At a nonce out of range. -/
  | nonce {count : Nat} {now : UInt64} {nonce : UInt32} {used : Usage}
      (same : ∀ ahead < count, devices.millisAt usage ahead = some last)
      (told : devices.millisAt usage count = some now) (other : now ≠ last)
      (draw : devices.draw usage.draws = .nonce nonce)
      (beyond : nonceBound ≤ nonce.toNat)
      (reads : used.reads = usage.reads + (count + 2))
      (draws : used.draws = usage.draws + 1) :
      Mishap devices last usage ("nonce out of range: " ++ Numeral.render nonce.toNat)
        now used

/-- What a call leaves that has panicked. -/
structure Broken (devices : Devices) (before : Generator) (usage : Usage)
    (message : String) (after : Generator) (used : Usage) : Prop where
  poisoned : after.poisoned = true
  restores : used.restores = usage.restores
  mishap : Mishap devices before.last usage message after.last used

theorem Course.broken
    (course : Course devices name before usage (.panicked message) after used) :
    Broken devices before usage message after used := by
  cases course with
  | @unread rounds mark idle _ healthy idles failed =>
    have idled := idles.idled
    rw [idled.reads] at failed
    exact
      { poisoned := rfl
        restores := idled.restores
        mishap := .clock idled.told failed idled.reads_succ idled.draws }
  | @unrested rounds idle _ healthy idles told failed =>
    have idled := idles.idled
    rw [idled.nap_eq] at failed
    exact
      { poisoned := rfl
        restores := idled.restores
        mishap := .sleep (idled.told_succ told) (idled.quiet rfl).1 failed
          idled.reads_succ idled.draws }
  | @unmade rounds mark idle _ now _ healthy idles told other unmade =>
    have idled := idles.idled
    have recorded : devices.millisAt usage rounds = some now := by
      rw [idled.millisAt_eq]
      exact told
    have once := idled.reads_succ
    have twice : (devices.heard (devices.heard idle)).reads =
        usage.reads + (rounds + 2) := by
      rw [reads_heard, once, Nat.add_assoc]
    have draws : (devices.heard (devices.heard idle)).draws = usage.draws := idled.draws
    cases unmade with
    | clock failed =>
      rw [once] at failed
      exact ⟨rfl, idled.restores, .timestamp idled.told recorded other failed twice draws⟩
    | draw stamped failed =>
      rw [draws_heard, idled.draws] at failed
      exact ⟨rfl, idled.restores,
        .draw idled.told recorded other failed twice (congrArg (· + 1) draws)⟩
    | nonce stamped draw beyond =>
      rw [draws_heard, idled.draws] at draw
      exact ⟨rfl, idled.restores,
        .nonce idled.told recorded other draw beyond twice (congrArg (· + 1) draws)⟩

/-- Only a poisoned lock makes a call fail without a panic. -/
theorem Course.poisoned_of_fault {fault : Fault}
    (course : Course devices name before usage (.returned (.error fault)) after used) :
    before.poisoned = true := by
  cases course with
  | refused poisoned => exact poisoned

/-- A call leaves the lock poisoned exactly if it was so before, or the call panics. -/
theorem Course.poisoned_iff {ending : Ending (Except Fault Minted)}
    (course : Course devices name before usage ending after used) :
    after.poisoned = true ↔
      before.poisoned = true ∨ ∃ message, ending = .panicked message := by
  cases course with
  | refused poisoned => simp [poisoned]
  | unread | unrested | unmade => simp
  | minted healthy => simp [healthy]

end Generator

namespace Mint

open Generator

variable {devices : Devices} {patience : Nat} {mint after : Mint} {call : Call}
  {answer : Answer} {generator : Nat}

/-! ## One call -/

/-- A call that asks for no token leaves all families as they are. -/
theorem family_of_perform_unasked (unasked : call.minter? = none)
    (performed : mint.perform devices patience call = some (answer, after))
    (family : Nat) : after.family family = mint.family family := by
  cases call with
  | tryMint | mint => cases unasked
  | newGenerator =>
    cases performed
    exact family_append family _
  | lastTimestamp | cloneGenerator | interrupt | observe =>
    cases performed
    rfl

/-- A call that is not refused answers with a panic exactly if its course ends so. -/
theorem report_eq_panicked_iff {name message : String} {before state : Generator}
    {usage used : Usage} {ending : Ending (Except Fault Minted)}
    (course : Course devices name before usage ending state used)
    (healthy : before.poisoned = false) :
    call.report ending = .panicked message ↔ ending = .panicked message := by
  cases course with
  | refused poisoned =>
    rw [healthy] at poisoned
    cases poisoned
  | unread | unrested | unmade | minted => simp

/-- The call panics under the lock of the family. -/
def Breaks (devices : Devices) (patience : Nat) (mint : Mint) (family : Nat)
    (call : Call) : Prop :=
  ∃ generator message after, call.minter? = some generator ∧
    mint.familyOf generator = family ∧ (mint.family family).poisoned = false ∧
    mint.perform devices patience call = some (.minted (.panicked message), after)

/-- A call leaves a family poisoned exactly if it came upon it so, or panics under its
lock. -/
theorem poisoned_iff_of_perform (housed : mint.Housed)
    (performed : mint.perform devices patience call = some (answer, after))
    (family : Nat) :
    (after.family family).poisoned = true ↔
      (mint.family family).poisoned = true ∨ Breaks devices patience mint family call := by
  cases asked : call.minter? with
  | none =>
    rw [family_of_perform_unasked asked performed]
    simp [Breaks, asked]
  | some generator =>
    obtain ⟨name, ending, state, answered, same, course⟩ := course_of_perform asked performed
    have found := family_set housed generator family state after.usage
    rw [← same] at found
    rw [found]
    by_cases mine : mint.familyOf generator = family
    · subst mine
      rw [if_pos rfl, course.poisoned_iff]
      constructor
      · rintro (poisoned | ⟨message, panicked⟩)
        · exact .inl poisoned
        · rcases health : (mint.family (mint.familyOf generator)).poisoned with _ | _
          · right
            refine ⟨generator, message, after, asked, rfl, health, ?_⟩
            rw [performed, answered, panicked, Call.report_panicked]
          · exact .inl rfl
      · rintro (poisoned | ⟨_, message, other, _, _, healthy, panicked⟩)
        · exact .inl poisoned
        · right
          rw [performed, answered] at panicked
          have reported := Answer.minted.inj (Prod.mk.inj (Option.some.inj panicked)).1
          exact ⟨message, (report_eq_panicked_iff course healthy).mp reported⟩
    · rw [if_neg mine]
      constructor
      · exact .inl
      · rintro (poisoned | ⟨other, _, _, also, theirs, _, _⟩)
        · exact poisoned
        · rw [asked] at also
          cases also
          exact absurd theirs mine

/-! ## Runs -/

theorem reached_unique {start first second : Mint} {calls : List Call}
    (here : Reached devices patience calls start first)
    (there : Reached devices patience calls start second) : first = second := by
  obtain ⟨answers, ran⟩ := here
  obtain ⟨others, also⟩ := there
  rw [ran] at also
  cases also
  rfl

/-- In a run of calls on a fresh mint, one of them has panicked under the lock of the
family. -/
def Broke (devices : Devices) (patience : Nat) (calls : List Call) (family : Nat) :
    Prop :=
  ∃ before call rest between, calls = before ++ call :: rest ∧
    Reached devices patience before initial between ∧
    Breaks devices patience between family call

theorem not_broke_nil (family : Nat) : ¬ Broke devices patience [] family := by
  rintro ⟨before, call, rest, _, split, _⟩
  simp at split

/-- One more call either panics itself, or leaves the matter as it was. -/
theorem broke_concat {calls : List Call} {family : Nat}
    (led : Reached devices patience calls initial mint) :
    Broke devices patience (calls ++ [call]) family ↔
      Broke devices patience calls family ∨ Breaks devices patience mint family call := by
  constructor
  · rintro ⟨before, breaking, rest, between, split, reached, breaks⟩
    rcases List.eq_nil_or_concat rest with rfl | ⟨rest, latest, rfl⟩
    · obtain ⟨rfl, same⟩ := List.append_inj' split rfl
      cases same
      rw [reached_unique led reached]
      exact .inr breaks
    · rw [List.concat_eq_append, ← List.cons_append, ← List.append_assoc] at split
      obtain ⟨rfl, _⟩ := List.append_inj' split rfl
      exact .inl ⟨before, breaking, rest, between, rfl, reached, breaks⟩
  · rintro (⟨before, breaking, rest, between, rfl, reached, breaks⟩ | breaks)
    · exact ⟨before, breaking, rest ++ [call], between, by simp, reached, breaks⟩
    · exact ⟨calls, call, [], mint, rfl, led, breaks⟩

/-- Along a run, a family is poisoned exactly if one of its generators has panicked under
the lock. -/
theorem poisoned_iff_broke {calls : List Call}
    (led : Reached devices patience calls initial mint) (family : Nat) :
    (mint.family family).poisoned = true ↔ Broke devices patience calls family := by
  induction calls using List.reverseRecOn generalizing mint with
  | nil =>
    cases reached_nil.mp led
    have healthy : (initial.family family).poisoned = false := by
      cases family <;> rfl
    simp [healthy, not_broke_nil]
  | append_singleton calls call ih =>
    obtain ⟨between, answer, reached, performed⟩ := reached_concat.mp led
    rw [poisoned_iff_of_perform (housed_initial.reached reached) performed, ih reached,
      broke_concat reached]

/-! ## What generators answer -/

/-- The generator is refused, and neither its state nor any device is touched. -/
structure Refuses (devices : Devices) (patience : Nat) (mint : Mint) (generator : Nat) :
    Prop where
  tries : ∀ name, mint.perform devices patience (.tryMint generator name) =
    some (.minted (.returned (.error .lockPoisoned)), mint)
  insists : ∀ name, mint.perform devices patience (.mint generator name) =
    some (.minted (.panicked
      "called `Result::unwrap()` on an `Err` value: LockPoisoned"), mint)
  asks : mint.perform devices patience (.lastTimestamp generator) =
    some (.last (.error .lockPoisoned), mint)

/-- The generator is not refused: a call that asks it for a token gets one and leaves
the lock as it was, or panics under the lock. -/
structure Serves (devices : Devices) (patience : Nat) (mint : Mint) (generator : Nat) :
    Prop where
  asks : mint.perform devices patience (.lastTimestamp generator) =
    some (.last (.ok (mint.state generator).last), mint)
  mints : ∀ call answer after, call.minter? = some generator →
    mint.perform devices patience call = some (answer, after) →
      (∃ minted, answer = .minted (.returned (.ok minted)) ∧
          (after.state generator).poisoned = false) ∨
        ∃ message, answer = .minted (.panicked message) ∧
          Broken devices (mint.state generator) mint.usage message
            (after.state generator) after.usage

/-- Clones belong to one family for good, and others never do. -/
structure Kindred (devices : Devices) (patience : Nat) (mint : Mint) : Prop where
  kept : ∀ call answer after, mint.perform devices patience call = some (answer, after) →
    ∀ generator < mint.members.length,
      generator < after.members.length ∧
        after.familyOf generator = mint.familyOf generator
  cloned : ∀ original, ∃ after,
    mint.perform devices patience (.cloneGenerator original) =
        some (.created mint.members.length, after) ∧
      after.familyOf mint.members.length = mint.familyOf original
  fresh : ∃ after,
    mint.perform devices patience .newGenerator =
        some (.created mint.members.length, after) ∧
      ∀ other < mint.members.length,
        after.familyOf other ≠ after.familyOf mint.members.length

/-- Setting a family to the state that it is in changes nothing. -/
theorem set_state (mint : Mint) (generator : Nat) :
    mint.families.set (mint.familyOf generator) (mint.state generator) = mint.families := by
  rw [state, List.getD_eq_getElem?_getD]
  rcases Nat.lt_or_ge (mint.familyOf generator) mint.families.length with inside | outside
  · rw [List.getElem?_eq_getElem inside, Option.getD_some, List.set_getElem_self]
  · rw [List.set_eq_of_length_le outside]

theorem refuses_of_poisoned (poisoned : (mint.state generator).poisoned = true) :
    Refuses devices patience mint generator := by
  have struck : ∀ name, mint.strike devices patience generator name =
      some (.returned (.error .lockPoisoned), mint) := by
    intro name
    rw [strike, Generator.mint, if_pos poisoned]
    simp only [set_state]
  exact
    { tries := by
        intro name
        rw [perform, struck]
        rfl
      insists := by
        intro name
        rw [perform, struck]
        rfl
      asks := by
        rw [perform, lastTimestamp, if_pos poisoned] }

theorem serves_of_healthy (housed : mint.Housed)
    (healthy : (mint.state generator).poisoned = false) :
    Serves devices patience mint generator where
  asks := by
    rw [perform, lastTimestamp, if_neg (by simp [healthy])]
  mints := by
    intro call answer after asked performed
    obtain ⟨name, ending, state, answered, same, course⟩ := course_of_perform asked performed
    have own : after.state generator = state := by
      have found :=
        family_set housed generator (mint.familyOf generator) state after.usage
      rw [if_pos rfl] at found
      rw [same]
      exact found
    rw [own]
    rcases ending with (fault | minted) | message
    · have poisoned := course.poisoned_of_fault
      rw [healthy] at poisoned
      cases poisoned
    · left
      refine ⟨minted, by rw [answered, Call.report_minted], ?_⟩
      rw [← Bool.not_eq_true, course.poisoned_iff]
      simp [healthy]
    · right
      exact ⟨message, by rw [answered, Call.report_panicked], course.broken⟩

theorem kindred_of_housed (housed : mint.Housed) : Kindred devices patience mint where
  kept := by
    intro call answer after performed generator within
    cases asked : call.minter? with
    | some asked' =>
      obtain ⟨_, _, _, _, same, _⟩ := course_of_perform asked performed
      rw [same]
      exact ⟨within, rfl⟩
    | none =>
      cases call with
      | tryMint | mint => cases asked
      | lastTimestamp | interrupt | observe =>
        cases performed
        exact ⟨within, rfl⟩
      | newGenerator | cloneGenerator =>
        cases performed
        constructor
        · rw [List.length_append]
          omega
        · simp only [familyOf, List.getD_eq_getElem?_getD,
            List.getElem?_append_left within]
  cloned := by
    intro original
    refine ⟨_, rfl, ?_⟩
    simp [familyOf]
  fresh := by
    refine ⟨_, rfl, ?_⟩
    intro other within
    have below := housed.familyOf_lt other
    simp only [familyOf, List.getD_eq_getElem?_getD,
      List.getElem?_append_left within, List.getElem?_concat_length] at below ⊢
    exact Nat.ne_of_lt below

/-- **A panic poisons one family.** Along any run of calls on a fresh mint, with any
devices, a family is poisoned exactly if one of its generators has panicked under the
lock. Whoever belongs to it is refused and touches nothing. All others get their tokens
as before, or panic themselves, which `Broken` describes: nothing is raised again, and
the recorded millisecond is as before or as the clock has told, depending on how far the
call had come. Clones belong to one family for good, and nobody else does. -/
theorem panics_poison_family (devices : Devices) (patience : Nat) (calls : List Call)
    (mint : Mint) (led : Reached devices patience calls initial mint) :
    (∀ family, (mint.family family).poisoned = true ↔
        Broke devices patience calls family) ∧
      (∀ generator, (mint.state generator).poisoned = true →
        Refuses devices patience mint generator) ∧
      (∀ generator, (mint.state generator).poisoned = false →
        Serves devices patience mint generator) ∧
      Kindred devices patience mint := by
  have housed := housed_initial.reached led
  exact ⟨poisoned_iff_broke led, fun _ => refuses_of_poisoned,
    fun _ => serves_of_healthy housed, kindred_of_housed housed⟩

/-- A clock that fails at the reading for the second token. -/
def cracked : DevicePlan where
  clock := .listed #[.time 1, .time 2, .time 3, .failure "clock failed"]
  naps := #[]
  nonces := #[.nonce 7]
  bedding := .prepared

/-- A clone mints after its original, next to a generator of another family. -/
def crackedCalls : List Call :=
  [.cloneGenerator 0, .newGenerator, .tryMint 0 "dock", .mint 1 "dock"]

theorem panics_poison_family_cracked :
    ∃ mint, Reached cracked.devices 9 crackedCalls initial mint ∧
      (mint.state 0).last = 3 ∧ Broke cracked.devices 9 crackedCalls 0 ∧
      Refuses cracked.devices 9 mint 0 ∧ Refuses cracked.devices 9 mint 1 ∧
      Serves cracked.devices 9 mint 2 := by
  let mint : Mint := ⟨[⟨3, true⟩, {}], [0, 0, 1], ⟨4, 1, #[], 0, {}⟩⟩
  have led : Reached cracked.devices 9 crackedCalls initial mint := ⟨_, rfl⟩
  obtain ⟨broke, refuses, serves, _⟩ :=
    panics_poison_family cracked.devices 9 crackedCalls mint led
  exact ⟨mint, led, rfl, (broke 0).mp rfl, refuses 0 rfl, refuses 1 rfl, serves 2 rfl⟩

end Mint

end Carousel
