/-
# Families of sleeps and interrupters

Two handles are related if one was derived from the other, or both from a third one,
through any chain of derivations. Related handles share a latch and unrelated ones do
not, so that a latch is raised exactly if a signal is pending in the family it belongs
to. Hence every sleep hears of the signals of its own family and of no other ones,
whether these came before it rested or while it did, and whoever else rested meanwhile.
-/

import Carousel.Proofs.Accounts
import Mathlib.Logic.Relation

namespace Carousel

namespace Sleepers

/-- A chain of derivations links the handles, in whichever direction each of them goes. -/
def Related (log : List Entry) : Handle → Handle → Prop :=
  Relation.EqvGen fun parent child => .derived parent child ∈ log

/-- Handles stay related. -/
theorem Related.append {log : List Entry} {first second : Handle}
    (related : Related log first second) (later : List Entry) :
    Related (log ++ later) first second :=
  Relation.EqvGen.mono (fun _ _ listed => List.mem_append_left later listed) first second
    related

/-! ## Latches -/

section

variable (sleepers : Sleepers) (family other : Nat)

/-- An interrupt is pending in the family. -/
def Raised : Prop :=
  (sleepers.latches.getD family {}).raised = true

variable {sleepers family other}

theorem raised_raise_iff (lodged : family < sleepers.latches.length) :
    (sleepers.raise family).Raised other ↔ other = family ∨ sleepers.Raised other := by
  rw [Raised, raise, List.getD_eq_getElem?_getD, List.getElem?_modify]
  by_cases same : family = other
  · subst same
    simp [lodged, Latch.raise]
  · simp [same, Raised, Ne.symm same]

theorem fst_observe_iff : (sleepers.observe family).1 = true ↔ sleepers.Raised family :=
  Iff.rfl

theorem raised_observe_iff :
    (sleepers.observe family).2.Raised other ↔ sleepers.Raised other ∧ other ≠ family := by
  rw [Raised, observe, List.getD_eq_getElem?_getD, List.getElem?_set]
  by_cases same : family = other
  · subst same
    by_cases lodged : family < sleepers.latches.length <;> simp [lodged, Latch.observe]
  · simp [same, Raised, Ne.symm same]

/-- A look that finds nothing changes nothing. -/
theorem observe_of_not_raised (lowered : ¬ sleepers.Raised family) :
    (sleepers.observe family).2 = sleepers := by
  have same : sleepers.latches.set family ⟨false⟩ = sleepers.latches := by
    by_cases lodged : family < sleepers.latches.length
    · have held : sleepers.latches[family] = ⟨false⟩ := by
        rw [Raised, List.getD_eq_getElem?_getD, List.getElem?_eq_getElem lodged,
          Option.getD_some, Bool.not_eq_true] at lowered
        exact congrArg Latch.mk lowered
      rw [← held, List.set_getElem_self]
    · exact List.set_eq_of_length_le (Nat.not_lt.mp lodged)
  exact congrArg (fun latches => { sleepers with latches }) same

/-- A new latch is not raised. -/
theorem getD_append_new (latches : List Latch) (family : Nat) :
    (latches ++ [({} : Latch)]).getD family {} = latches.getD family {} := by
  rw [List.getD_eq_getElem?_getD, List.getD_eq_getElem?_getD, List.getElem?_append]
  split
  · rfl
  · rename_i beyond
    rw [List.getElem?_eq_none (Nat.not_lt.mp beyond)]
    cases family - latches.length <;> rfl

end

/-! ## Handles -/

/-- A handle has come into being, in some family. The others are where they were, and no
latch is raised or lowered. -/
structure Gains (sleepers : Sleepers) (child : Handle) (family : Nat) (after : Sleepers) :
    Prop where
  has_iff : ∀ handle, after.Has handle ↔ sleepers.Has handle ∨ handle = child
  familyOf_child : after.familyOf child = family
  familyOf_eq : ∀ handle, sleepers.Has handle →
    after.familyOf handle = sleepers.familyOf handle
  raised_iff : ∀ other, after.Raised other ↔ sleepers.Raised other

theorem gains_sleep (sleepers : Sleepers) (family : Nat) {latches : List Latch}
    (same : ∀ other, latches.getD other {} = sleepers.latches.getD other {}) :
    Gains sleepers (.sleep sleepers.sleeps.length) family
      { sleepers with latches, sleeps := sleepers.sleeps ++ [family] } where
  has_iff
    | .sleep index => by
      rw [Has, Has, List.length_append, List.length_singleton, Handle.sleep.injEq]
      exact Nat.lt_succ_iff_lt_or_eq
    | .interrupter index => by simp [Has]
  familyOf_child := by simp [familyOf, familyOfSleep]
  familyOf_eq
    | .sleep index, has => by simp [familyOf, familyOfSleep, List.getElem?_append_left has]
    | .interrupter index, has => rfl
  raised_iff other := by rw [Raised, Raised, same]

theorem gains_interrupter (sleepers : Sleepers) (family : Nat) :
    Gains sleepers (.interrupter sleepers.interrupters.length) family
      { sleepers with interrupters := sleepers.interrupters ++ [family] } where
  has_iff
    | .sleep index => by simp [Has]
    | .interrupter index => by
      rw [Has, Has, List.length_append, List.length_singleton, Handle.interrupter.injEq]
      exact Nat.lt_succ_iff_lt_or_eq
  familyOf_child := by simp [familyOf, familyOfInterrupter]
  familyOf_eq
    | .sleep index, has => rfl
    | .interrupter index, has => by
      simp [familyOf, familyOfInterrupter, List.getElem?_append_left has]
  raised_iff other := Iff.rfl

/-- The log names handles that are there, and tells which of them share a latch, which
latches are raised, and why sleeps were interrupted. -/
structure Kept (log : List Entry) (sleepers : Sleepers) : Prop where
  named : ∀ entry ∈ log, ∀ handle ∈ entry.handles, sleepers.Has handle
  lodged : ∀ handle, sleepers.Has handle →
    sleepers.familyOf handle < sleepers.latches.length
  derived : ∀ parent child, .derived parent child ∈ log →
    sleepers.familyOf parent = sleepers.familyOf child
  related : ∀ first second, sleepers.Has first → sleepers.Has second →
    sleepers.familyOf first = sleepers.familyOf second → Related log first second
  raised_iff : ∀ family, sleepers.Raised family ↔
    Pending (fun handle => sleepers.familyOf handle = family) log
  truthful : ∀ family, Truthful (fun handle => sleepers.familyOf handle = family) log

theorem kept_nobody : Kept [] nobody where
  named := List.forall_mem_nil _
  lodged
    | .sleep _, has | .interrupter _, has => absurd has (Nat.not_lt_zero _)
  derived _ _ listed := absurd listed List.not_mem_nil
  related
    | .sleep _, _, has, _ | .interrupter _, _, has, _ => absurd has (Nat.not_lt_zero _)
  raised_iff family := iff_of_false (by simp [Raised, nobody]) not_since_nil
  truthful _ := truthful_nil

section

variable {log : List Entry} {sleepers after : Sleepers} (kept : Kept log sleepers)

include kept

theorem Kept.familyOf_eq_of_related {first second : Handle}
    (related : Related log first second) :
    sleepers.familyOf first = sleepers.familyOf second := by
  induction related with
  | rel parent child listed => exact kept.derived parent child listed
  | refl handle => rfl
  | symm first second _ ih => exact ih.symm
  | trans first middle second _ _ ih further => exact ih.trans further

/-- Related handles are those of one family. -/
theorem Kept.related_iff {first second : Handle} (has : sleepers.Has first)
    (also : sleepers.Has second) :
    Related log first second ↔ sleepers.familyOf first = sleepers.familyOf second :=
  ⟨kept.familyOf_eq_of_related, kept.related first second has also⟩

/-- The log is true to every family. -/
theorem Kept.truthful_related {handle : Handle} (has : sleepers.Has handle) :
    Truthful (Related log handle) log := by
  apply (kept.truthful (sleepers.familyOf handle)).congr
  intro entry listed other held
  rw [kept.related_iff has (kept.named entry listed other held), eq_comm]

/-! ### A handle comes into being -/

theorem Kept.same_family {child : Handle} {home : Nat}
    (gains : Gains sleepers child home after) (family : Nat) :
    ∀ entry ∈ log, ∀ handle ∈ entry.handles,
      (sleepers.familyOf handle = family ↔ after.familyOf handle = family) := by
  intro entry listed handle held
  rw [gains.familyOf_eq handle (kept.named entry listed handle held)]

/-- A fresh sleep starts a family of its own. -/
theorem Kept.found {child : Handle}
    (gains : Gains sleepers child sleepers.latches.length after)
    (grown : after.latches.length = sleepers.latches.length + 1) : Kept log after where
  named entry listed handle held :=
    (gains.has_iff handle).mpr (.inl (kept.named entry listed handle held))
  lodged handle has := by
    rw [grown]
    rcases (gains.has_iff handle).mp has with old | rfl
    · rw [gains.familyOf_eq handle old]
      exact Nat.lt_succ_of_lt (kept.lodged handle old)
    · rw [gains.familyOf_child]
      exact Nat.lt_succ_self _
  derived parent child listed := by
    have held := kept.named _ listed
    rw [gains.familyOf_eq parent (held parent (by simp [Entry.handles])),
      gains.familyOf_eq child (held child (by simp [Entry.handles]))]
    exact kept.derived parent child listed
  related first second has also same := by
    -- No older handle can be in the family that was not there before.
    have distinct : ∀ handle, sleepers.Has handle →
        after.familyOf handle ≠ after.familyOf child := by
      intro handle old
      rw [gains.familyOf_child, gains.familyOf_eq handle old]
      exact Nat.ne_of_lt (kept.lodged handle old)
    rcases (gains.has_iff first).mp has with old | rfl <;>
      rcases (gains.has_iff second).mp also with older | rfl
    · rw [gains.familyOf_eq first old, gains.familyOf_eq second older] at same
      exact kept.related first second old older same
    · exact absurd same (distinct first old)
    · exact absurd same.symm (distinct second older)
    · exact .refl _
  raised_iff family := by
    rw [gains.raised_iff, kept.raised_iff, pending_congr (kept.same_family gains family)]
  truthful family := (kept.truthful family).congr (kept.same_family gains family)

/-- A handle that is derived from another one joins its family. -/
theorem Kept.derive {parent child : Handle} (has : sleepers.Has parent)
    (gains : Gains sleepers child (sleepers.familyOf parent) after)
    (as_many : after.latches.length = sleepers.latches.length) :
    Kept (log ++ [.derived parent child]) after := by
  -- Every handle is next to one that was there before.
  have neighbour : ∀ handle, after.Has handle → ∃ older, sleepers.Has older ∧
      after.familyOf handle = sleepers.familyOf older ∧
      Related (log ++ [.derived parent child]) older handle := by
    intro handle there
    rcases (gains.has_iff handle).mp there with old | rfl
    · exact ⟨handle, old, gains.familyOf_eq handle old, .refl _⟩
    · exact ⟨parent, has, gains.familyOf_child, .rel _ _ (by simp)⟩
  constructor
  · rw [List.forall_mem_append, List.forall_mem_singleton, Entry.handles, List.forall_mem_cons,
      List.forall_mem_singleton]
    refine ⟨fun entry listed handle held => ?_, ?_, ?_⟩
    · exact (gains.has_iff handle).mpr (.inl (kept.named entry listed handle held))
    · exact (gains.has_iff parent).mpr (.inl has)
    · exact (gains.has_iff child).mpr (.inr rfl)
  · intro handle there
    obtain ⟨older, old, same, _⟩ := neighbour handle there
    rw [same, as_many]
    exact kept.lodged older old
  · intro first second listed
    rw [List.mem_append, List.mem_singleton] at listed
    rcases listed with listed | same
    · have held := kept.named _ listed
      rw [gains.familyOf_eq first (held first (by simp [Entry.handles])),
        gains.familyOf_eq second (held second (by simp [Entry.handles]))]
      exact kept.derived first second listed
    · cases same
      rw [gains.familyOf_eq parent has, gains.familyOf_child]
  · intro first second there also same
    obtain ⟨older, old, family, near⟩ := neighbour first there
    obtain ⟨other, known, family', near'⟩ := neighbour second also
    have linked := kept.related older other old known (family ▸ family' ▸ same)
    exact .trans _ _ _ (.symm _ _ near) (.trans _ _ _ (linked.append _) near')
  · intro family
    rw [gains.raised_iff, kept.raised_iff, pending_append_singleton,
      pending_congr (kept.same_family gains family)]
    simp [Entry.Signals, Entry.Sleeps]
  · intro family
    rw [truthful_append_singleton]
    exact ⟨(kept.truthful family).congr (kept.same_family gains family), by simp⟩

/-! ### A latch is raised or lowered -/

/-- Signals and sleeps leave everybody where they are. -/
theorem Kept.note {entry : Entry} {latches : List Latch}
    (as_many : latches.length = sleepers.latches.length)
    (named : ∀ handle ∈ entry.handles, sleepers.Has handle)
    (underived : ∀ parent child, entry ≠ .derived parent child)
    (raised_iff : ∀ family, Raised { sleepers with latches } family ↔
      Pending (fun handle => sleepers.familyOf handle = family) (log ++ [entry]))
    (truthful : ∀ sleep interrupted, entry = .slept sleep interrupted → (interrupted = true ↔
      Pending (fun handle => sleepers.familyOf handle = sleepers.familyOfSleep sleep) log)) :
    Kept (log ++ [entry]) { sleepers with latches } where
  named := by
    rw [List.forall_mem_append, List.forall_mem_singleton]
    exact ⟨kept.named, named⟩
  lodged handle has := by
    rw [as_many]
    exact kept.lodged handle has
  derived parent child listed := by
    rw [List.mem_append, List.mem_singleton] at listed
    rcases listed with listed | same
    · exact kept.derived parent child listed
    · exact absurd same.symm (underived parent child)
  related first second has also same :=
    (kept.related first second has also same).append _
  raised_iff := raised_iff
  truthful family := by
    rw [truthful_append_singleton]
    refine ⟨kept.truthful family, ?_⟩
    rintro sleep interrupted same rfl
    exact truthful sleep interrupted same

theorem Kept.signal {handle : Handle} (has : sleepers.Has handle) :
    Kept (log ++ [.signalled handle]) (sleepers.raise (sleepers.familyOf handle)) := by
  apply kept.note (List.length_modify ..)
  · rw [Entry.handles, List.forall_mem_singleton]
    exact has
  · simp
  · intro family
    refine (raised_raise_iff (kept.lodged handle has)).trans ?_
    rw [kept.raised_iff, pending_append_singleton]
    simp [Entry.Signals, Entry.Sleeps, eq_comm]
  · simp

theorem Kept.sleep {index : Nat} (has : sleepers.Has (.sleep index)) :
    Kept (log ++ [.slept index (sleepers.observe (sleepers.familyOfSleep index)).1])
      (sleepers.observe (sleepers.familyOfSleep index)).2 := by
  apply kept.note (List.length_set ..)
  · rw [Entry.handles, List.forall_mem_singleton]
    exact has
  · simp
  · intro family
    refine raised_observe_iff.trans ?_
    rw [kept.raised_iff, pending_append_singleton]
    simp [Entry.Signals, Entry.Sleeps, familyOf, eq_comm]
  · intro sleep interrupted same
    cases same
    exact fst_observe_iff.trans (kept.raised_iff _)

end

end Sleepers

namespace Dormitory

open Sleepers

/-! ## Whatever happens -/

theorem kept_act {log : List Entry} {dormitory : Dormitory} {moment : Moment}
    (kept : Kept log dormitory.sleepers)
    (named : ∀ handle ∈ moment.handle?, dormitory.sleepers.Has handle) :
    Kept (log ++ (dormitory.act moment).1.toList) (dormitory.act moment).2.sleepers := by
  cases moment with
  | newSleep =>
    rw [act, Option.toList_none, List.append_nil]
    exact kept.found (gains_sleep _ _ (getD_append_new _)) List.length_append
  | cloneSleep index => exact kept.derive (named _ rfl) (gains_sleep _ _ fun _ => rfl) rfl
  | newInterrupter index => exact kept.derive (named _ rfl) (gains_interrupter _ _) rfl
  | cloneInterrupter index => exact kept.derive (named _ rfl) (gains_interrupter _ _) rfl
  | signal handle => exact kept.signal (named handle rfl)
  | lieDown index =>
    have slept := kept.sleep (named _ rfl)
    rw [act]
    cases early : (dormitory.sleepers.observe (dormitory.sleepers.familyOfSleep index)).1 with
    | true => simpa [early] using slept
    | false =>
      have lowered := observe_of_not_raised (Bool.eq_false_iff.mp early)
      simpa [early, lowered] using kept
  | getUp index =>
    rw [act]
    split
    · exact kept.sleep (named _ rfl)
    · simpa using kept

/-- Whatever happens is kept. -/
theorem kept_live {log : List Entry} {moments : List Moment} {dormitory : Dormitory}
    (kept : Kept log dormitory.sleepers) (named : Named moments dormitory) :
    Kept (log ++ (live moments dormitory).1) (live moments dormitory).2.sleepers := by
  induction moments generalizing log dormitory with
  | nil => simpa [live] using kept
  | cons moment rest ih =>
    rw [live_cons, ← List.append_assoc]
    exact ih (kept_act kept named.1) named.2

open Classical in
/-- Interrupts are latched in their family, where the next sleep to end reports them. -/
structure Latched (log : List Entry) (sleepers : Sleepers) : Prop where
  interrupted_iff : ∀ earlier sleep interrupted later,
    log = earlier ++ .slept sleep interrupted :: later →
    (interrupted = true ↔ Pending (Related log (.sleep sleep)) earlier)
  reported_once : ∀ earlier first heard between second told later rest,
    log = earlier ++ .slept first heard :: between ++ .slept second told :: later ++ rest →
    Related log (.sleep second) (.sleep first) →
    (∃ entry ∈ between, entry.Signals (Related log (.sleep second))) →
    (∀ entry ∈ between, ¬ entry.Sleeps (Related log (.sleep second))) →
    (∀ entry ∈ later, ¬ entry.Signals (Related log (.sleep second))) →
    told = true ∧
      ∀ third, .slept third true ∈ later → ¬ Related log (.sleep second) (.sleep third)
  /-- There are no more reports in a family than signals. -/
  reports_le : ∀ handle, sleepers.Has handle →
    (log.filterMap (Entry.answer? (Related log handle))).count true ≤
      (log.filterMap (Entry.use? (Related log handle))).count .raise
  /-- The sleeps of a family are answered as by a latch that nobody else uses. -/
  answered_alone : ∀ handle, sleepers.Has handle →
    log.filterMap (Entry.answer? (Related log handle)) =
      (Latch.afterUses (log.filterMap (Entry.use? (Related log handle)))).1

open Classical in
theorem latched_of_kept {log : List Entry} {sleepers : Sleepers} (kept : Kept log sleepers) :
    Latched log sleepers where
  interrupted_iff := by
    intro earlier sleep interrupted later split
    have has := kept.named (.slept sleep interrupted) (by simp [split]) (.sleep sleep)
      (List.mem_singleton_self _)
    exact kept.truthful_related has earlier sleep interrupted later split (.refl _)
  reported_once := by
    rintro earlier first heard between second told later rest rfl before
    have has := kept.named (.slept second told) (by simp) (.sleep second)
      (List.mem_singleton_self _)
    exact (kept.truthful_related has).reported_once before (.refl _)
  reports_le handle has := (kept.truthful_related has).count_true_le
  answered_alone handle has := (kept.truthful_related has).afterUses.1

/-- **Interrupts are latched, and private to a family.** Whatever happens in an empty
dormitory, with handles that are there when they are named: a sleep is interrupted exactly
if a signal was pending in its family when it ended, whether this came before the sleep or
while it rested. Signals between two sleeps of a family are reported once, a family has no
more reports than signals, and its sleeps are answered as if there were no other family.
Steps that are carried out one after the other are a special case. -/
theorem interrupts_latched (moments : List Moment) (named : Named moments .empty) :
    Latched (live moments .empty).1 (live moments .empty).2.sleepers ∧
      ∀ steps, moments = steps.flatMap Step.moments →
        (live moments .empty).1.filterMap Entry.report? = reports steps (run steps nobody).1 ∧
          (live moments .empty).2 = ⟨(run steps nobody).2, []⟩ := by
  constructor
  · have kept := kept_live kept_nobody named
    rw [List.nil_append] at kept
    exact latched_of_kept kept
  · rintro steps rfl
    obtain ⟨after, told⟩ := live_flatMap_moments steps nobody
    exact ⟨told, after⟩

/-- Two interrupters of one family signal, and a clone hears of it once. Then the cloned
sleep and a stranger rest side by side, one of them is interrupted, and what it heard of
is restored by the clone. -/
def restless : List Moment :=
  [.newSleep, .cloneSleep 0, .newInterrupter 0, .cloneInterrupter 0, .newSleep,
    .newInterrupter 2, .signal (.interrupter 0), .signal (.interrupter 1), .lieDown 1,
    .lieDown 0, .lieDown 2, .signal (.interrupter 1), .getUp 0, .getUp 2,
    .signal (.sleep 1), .lieDown 0]

theorem interrupts_latched_restless :
    Named restless .empty ∧
      (live restless .empty).1.filterMap Entry.report? =
        [(1, true), (0, true), (2, false), (0, true)] ∧
      Latched (live restless .empty).1 (live restless .empty).2.sleepers := by
  have named : Named restless .empty := by decide
  exact ⟨named, rfl, (interrupts_latched restless named).1⟩

end Dormitory

end Carousel
