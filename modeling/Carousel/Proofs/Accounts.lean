/-
# What a log of sleeps tells

A signal is pending among some handles if one of them has signalled and none of them has
slept since. A log is true to them if their sleeps were interrupted exactly when a signal
was pending, however it came to be so.

Such a log could have been left by one latch that is used by nobody else. What other
handles do makes no difference to it, signals that come between two sleeps are reported
once, and there are no more reports than signals.
-/

import Carousel.Proofs.Moments
import Carousel.Proofs.Since

namespace Carousel

namespace Latch

/-- What a latch is used for. -/
inductive Use
  | raise
  | observe
  deriving DecidableEq

/-- Use a latch once more, after it has given some answers. -/
def use (past : List Bool × Latch) : Use → List Bool × Latch
  | .raise => (past.1, past.2.raise)
  | .observe => (past.1 ++ [past.2.observe.1], past.2.observe.2)

/-- What a new latch answers to its uses, and how they leave it. -/
def afterUses (uses : List Use) : List Bool × Latch :=
  uses.foldl use ([], {})

theorem afterUses_append_singleton (uses : List Use) (last : Use) :
    afterUses (uses ++ [last]) = use (afterUses uses) last := by
  rw [afterUses, List.foldl_append]
  rfl

/-- A latch does not tell of more interrupts than were raised. -/
theorem count_true_le (uses : List Use) :
    (afterUses uses).1.count true + (afterUses uses).2.raised.toNat ≤ uses.count .raise := by
  induction uses using List.reverseRecOn with
  | nil => exact Nat.le_refl 0
  | append_singleton uses last ih =>
    rw [afterUses_append_singleton, List.count_append]
    cases last with
    | raise => simpa [use, raise] using Nat.le_of_add_right_le ih
    | observe =>
      cases pending : (afterUses uses).2.raised <;> simpa [use, observe, pending] using ih

end Latch

namespace Sleepers

/-- The handles that an entry names. -/
def Entry.handles : Entry → List Handle
  | .derived parent child => [parent, child]
  | .signalled handle => [handle]
  | .slept sleep _ => [.sleep sleep]

/-- One of some handles has signalled. -/
def Entry.Signals (members : Handle → Prop) : Entry → Prop
  | .signalled handle => members handle
  | .derived _ _ | .slept _ _ => False

/-- One of some handles has slept. -/
def Entry.Sleeps (members : Handle → Prop) : Entry → Prop
  | .slept sleep _ => members (.sleep sleep)
  | .derived _ _ | .signalled _ => False

/-- One of some handles has signalled, and none of them has slept since. -/
def Pending (members : Handle → Prop) (log : List Entry) : Prop :=
  Since (Entry.Signals members) (Entry.Sleeps members) log

/-- Sleeps among some handles were interrupted exactly if a signal was pending. -/
def Truthful (members : Handle → Prop) (log : List Entry) : Prop :=
  ∀ earlier sleep interrupted later, log = earlier ++ .slept sleep interrupted :: later →
    members (.sleep sleep) → (interrupted = true ↔ Pending members earlier)

/-- What an entry says to have been done with the latch of some handles. -/
def Entry.use? (members : Handle → Prop) [DecidablePred members] : Entry → Option Latch.Use
  | .signalled handle => if members handle then some .raise else none
  | .slept sleep _ => if members (.sleep sleep) then some .observe else none
  | .derived _ _ => none

/-- What an entry says a sleep among some handles to have come to. -/
def Entry.answer? (members : Handle → Prop) [DecidablePred members] : Entry → Option Bool
  | .slept sleep interrupted => if members (.sleep sleep) then some interrupted else none
  | .derived _ _ | .signalled _ => none

section

variable {members others : Handle → Prop} {log : List Entry} {last : Entry}

theorem pending_append_singleton :
    Pending members (log ++ [last]) ↔
      last.Signals members ∨ Pending members log ∧ ¬ last.Sleeps members :=
  since_append_singleton

/-- A sleep makes the signals before it forgotten. -/
theorem pending_append_slept_iff {earlier later : List Entry} {sleep : Nat}
    {interrupted : Bool} (member : members (.sleep sleep)) :
    Pending members (earlier ++ .slept sleep interrupted :: later) ↔ Pending members later :=
  since_append_spoiler_iff member not_false

theorem truthful_nil : Truthful members [] := by
  intro earlier sleep interrupted later split
  cases earlier <;> cases split

theorem truthful_append_singleton :
    Truthful members (log ++ [last]) ↔ Truthful members log ∧
      ∀ sleep interrupted, last = .slept sleep interrupted → members (.sleep sleep) →
        (interrupted = true ↔ Pending members log) := by
  constructor
  · intro truthful
    constructor
    · rintro earlier sleep interrupted later rfl member
      exact truthful earlier sleep interrupted (later ++ [last]) (by simp) member
    · rintro sleep interrupted rfl member
      exact truthful log sleep interrupted [] rfl member
  · rintro ⟨truthful, final⟩ earlier sleep interrupted later split member
    cases later using List.reverseRecOn with
    | nil =>
      obtain ⟨rfl, same⟩ := List.append_inj' split rfl
      exact final sleep interrupted (List.head_eq_of_cons_eq same) member
    | append_singleton later other _ =>
      rw [← List.cons_append, ← List.append_assoc] at split
      obtain ⟨front, _⟩ := List.append_inj' split rfl
      exact truthful earlier sleep interrupted later front member

/-- What is pending among some handles depends on no other ones. -/
theorem pending_congr (same : ∀ entry ∈ log, ∀ handle ∈ entry.handles,
    (members handle ↔ others handle)) : Pending members log ↔ Pending others log := by
  apply since_congr
  intro entry listed
  cases entry with
  | derived => exact ⟨Iff.rfl, Iff.rfl⟩
  | signalled handle => exact ⟨same _ listed handle (List.mem_singleton_self _), Iff.rfl⟩
  | slept sleep => exact ⟨Iff.rfl, same _ listed (.sleep sleep) (List.mem_singleton_self _)⟩

theorem Truthful.congr (truthful : Truthful members log)
    (same : ∀ entry ∈ log, ∀ handle ∈ entry.handles, (members handle ↔ others handle)) :
    Truthful others log := by
  rintro earlier sleep interrupted later rfl member
  rw [List.forall_mem_append, List.forall_mem_cons] at same
  rw [← pending_congr same.1]
  apply truthful earlier sleep interrupted later rfl
  exact (same.2.1 _ (List.mem_singleton_self _)).mpr member

/-- Sleeps of which a log is true were answered as by one latch that is used by nobody
else, and it is raised if a signal is pending. -/
theorem Truthful.afterUses [DecidablePred members] (truthful : Truthful members log) :
    log.filterMap (Entry.answer? members) =
        (Latch.afterUses (log.filterMap (Entry.use? members))).1 ∧
      ((Latch.afterUses (log.filterMap (Entry.use? members))).2.raised = true ↔
        Pending members log) := by
  induction log using List.reverseRecOn with
  | nil => exact ⟨rfl, iff_of_false nofun not_since_nil⟩
  | append_singleton log last ih =>
    rw [truthful_append_singleton] at truthful
    obtain ⟨answered, raised_iff⟩ := ih truthful.1
    rw [List.filterMap_append, List.filterMap_append, pending_append_singleton]
    cases last with
    | derived parent child =>
      have untold : Entry.answer? members (.derived parent child) = none := rfl
      have unused : Entry.use? members (.derived parent child) = none := rfl
      simpa [untold, unused, Entry.Signals, Entry.Sleeps, answered] using raised_iff
    | signalled handle =>
      by_cases member : members handle
      · simp [Entry.answer?, Entry.use?, Entry.Signals, member, answered,
          Latch.afterUses_append_singleton, Latch.use, Latch.raise]
      · simpa [Entry.answer?, Entry.use?, Entry.Signals, Entry.Sleeps, member, answered]
          using raised_iff
    | slept sleep interrupted =>
      by_cases member : members (.sleep sleep)
      · have told : interrupted =
            (Latch.afterUses (log.filterMap (Entry.use? members))).2.raised := by
          rw [Bool.eq_iff_iff, raised_iff]
          exact truthful.2 sleep interrupted rfl member
        simp [Entry.answer?, Entry.use?, Entry.Signals, Entry.Sleeps, member, answered, told,
          Latch.afterUses_append_singleton, Latch.use, Latch.observe]
      · simpa [Entry.answer?, Entry.use?, Entry.Signals, Entry.Sleeps, member, answered]
          using raised_iff

/-- There are no more reports than signals. -/
theorem Truthful.count_true_le [DecidablePred members] (truthful : Truthful members log) :
    (log.filterMap (Entry.answer? members)).count true ≤
      (log.filterMap (Entry.use? members)).count .raise := by
  rw [truthful.afterUses.1]
  exact Nat.le_of_add_right_le (Latch.count_true_le _)

/-- Signals that come between two sleeps are reported by the second one, and by none that
follows unless there are signals again. -/
theorem Truthful.reported_once {earlier between later rest : List Entry}
    {first second : Nat} {heard told : Bool}
    (truthful : Truthful members (earlier ++ .slept first heard :: between ++
      .slept second told :: later ++ rest))
    (before : members (.sleep first)) (member : members (.sleep second))
    (signalled : ∃ entry ∈ between, entry.Signals members)
    (awake : ∀ entry ∈ between, ¬ entry.Sleeps members)
    (quiet : ∀ entry ∈ later, ¬ entry.Signals members) :
    told = true ∧ ∀ third, .slept third true ∈ later → ¬ members (.sleep third) := by
  constructor
  · have told_iff := truthful (earlier ++ .slept first heard :: between) second told
      (later ++ rest) (List.append_assoc _ _ _) member
    rw [pending_append_slept_iff before] at told_iff
    exact told_iff.mpr (since_of_unspoilt awake signalled)
  · intro third listed related
    obtain ⟨still, after, rfl⟩ := List.append_of_mem listed
    have pending := (truthful (earlier ++ .slept first heard :: between ++
      .slept second told :: still) third true (after ++ rest) (by simp) related).mp rfl
    rw [pending_append_slept_iff member] at pending
    exact not_since_of_unmarked (fun entry held => quiet entry (List.mem_append_left _ held))
      pending

end

end Sleepers

end Carousel
