/-
# Counting without overflow

Tallies count in words, and a sum that does not fit a word is a panic. As long as the
sums fit, tallies add up like functions, and the check of a cycle phase passes exactly
where every element was given out as often as its place says.
-/

import Carousel.Proofs.Turns
import Carousel.Stress.CyclePhase

namespace Carousel

/-- Of so many turns of a cycle, the share of a place: the same for all, and one more
for the first places. -/
def share (turns places place : Nat) : Nat :=
  turns / places + if place < turns % places then 1 else 0

theorem share_zero (places place : Nat) : share 0 places place = 0 := by
  simp [share]

/-- One more turn is one more for the place that it falls on. -/
theorem share_succ {places place : Nat} (turns : Nat) (within : place < places) :
    share (turns + 1) places place =
      share turns places place + if turns % places = place then 1 else 0 := by
  rw [share, share, ← count_turns _ within, ← count_turns _ within, List.range_succ,
    List.map_append, List.count_append, List.map_singleton, List.count_singleton]
  simp

namespace Stress

namespace CyclePhase

/-- The number of times that an element was given out, as a number. -/
def Tally.counted (tally : Tally) (element : String) : Nat :=
  (tally.count element).toNat

/-- A tally has counted what another one has, and more. -/
structure Tally.Exceeds (sum tally : Tally) (more : String → Nat) (names : List String) :
    Prop where
  counted : ∀ element, sum.counted element = tally.counted element + more element
  keys : ∀ element ∈ sum.keys, element ∈ names ∨ element ∈ tally.keys

theorem Tally.counted_empty (element : String) : Tally.counted .empty element = 0 :=
  rfl

/-- Counting an element more often changes its count only. -/
theorem Tally.exists_add {tally : Tally} {element : String} {times : UInt64}
    (fits : tally.counted element + times.toNat < UInt64.size) :
    ∃ sum, tally.add element times = .returned sum ∧
      sum.Exceeds tally (fun other => if element = other then times.toNat else 0)
        [element] := by
  refine ⟨tally.insert element (tally.count element + times), ?_, ?_, ?_⟩
  · have counted : (tally.count element).toNat + times.toNat < UInt64.size := fits
    rw [Tally.add, Word.add, if_pos counted]
    rfl
  · intro other
    rw [Tally.counted, Tally.count, Table.get?_insert]
    by_cases same : element = other
    · subst same
      rw [if_pos rfl, if_pos rfl, Option.getD_some, UInt64.toNat_add]
      exact Nat.mod_eq_of_lt fits
    · rw [if_neg same, if_neg same]
      rfl
  · intro other listed
    rw [List.mem_singleton]
    exact Table.mem_keys_insert.mp listed

/-- A count that was made fitted a word. -/
theorem Tally.exceeds_of_add {tally sum : Tally} {element : String}
    (adds : tally.add element 1 = .returned sum) :
    sum.Exceeds tally (fun other => if element = other then 1 else 0) [element] := by
  have fits : tally.counted element + (1 : UInt64).toNat < UInt64.size := by
    rw [Tally.add, Word.add] at adds
    split at adds
    · rename_i fits
      exact fits
    · cases adds
  obtain ⟨same, made, exceeds⟩ := Tally.exists_add fits
  cases made.symm.trans adds
  exact exceeds

/-- The count of an element in a list of counts. -/
def listed (entries : List (String × UInt64)) (element : String) : Nat :=
  ((Entries.find element entries).getD 0).toNat

/-- Tallies add up element by element. -/
theorem Tally.exists_merge {tally : Tally} {entries : List (String × UInt64)}
    (distinct : (entries.map Prod.fst).Nodup)
    (fits : ∀ element, tally.counted element + listed entries element < UInt64.size) :
    ∃ sum, tally.merge entries = .returned sum ∧
      sum.Exceeds tally (listed entries) (entries.map Prod.fst) := by
  induction entries generalizing tally with
  | nil => exact ⟨tally, rfl, fun _ => rfl, fun _ => .inr⟩
  | cons entry rest ih =>
    obtain ⟨element, times⟩ := entry
    rw [List.map_cons, List.nodup_cons] at distinct
    have first : listed ((element, times) :: rest) element = times.toNat := by
      rw [listed, Entries.find, if_pos rfl, Option.getD_some]
    have absent : listed rest element = 0 := by
      rw [listed, Entries.find_eq_none_iff.mpr distinct.1]
      rfl
    have others : ∀ other, element ≠ other →
        listed ((element, times) :: rest) other = listed rest other := by
      intro other apart
      rw [listed, Entries.find, if_neg apart]
      rfl
    have fitsFirst := fits element
    rw [first] at fitsFirst
    obtain ⟨added, adds, exceeds⟩ := Tally.exists_add fitsFirst
    have split : ∀ other, added.counted other + listed rest other =
        tally.counted other + listed ((element, times) :: rest) other := by
      intro other
      rw [exceeds.counted]
      by_cases same : element = other
      · subst same
        rw [if_pos rfl, absent, first]
        rfl
      · rw [if_neg same, others other same]
        rfl
    have fitsRest : ∀ other, added.counted other + listed rest other < UInt64.size := by
      intro other
      rw [split]
      exact fits other
    obtain ⟨sum, merges, rested⟩ := ih distinct.2 fitsRest
    refine ⟨sum, ?_, ?_, ?_⟩
    · rw [Tally.merge, adds]
      exact merges
    · intro other
      rw [rested.counted, split]
    · intro other known
      rw [List.map_cons, List.mem_cons]
      rcases rested.keys other known with later | before
      · exact .inl (.inr later)
      · rcases exceeds.keys other before with same | old
        · exact .inl (.inl (List.mem_singleton.mp same))
        · exact .inr old

/-! ## The check of the counts -/

/-- The expected count of a place is its share. -/
theorem exists_expectedCount (total : UInt64) {count : UInt64} (some : count ≠ 0)
    (place : UInt64) :
    ∃ expected, expectedCount total count place = .returned expected ∧
      expected.toNat = share total.toNat count.toNat place.toNat := by
  have size : UInt64.size = 2 ^ 64 := rfl
  have positive : 0 < count.toNat := by
    apply Nat.pos_of_ne_zero
    intro zero
    exact some (UInt64.toNat_inj.mp zero)
  have bound := total.toNat_lt
  have rounds := Nat.div_add_mod total.toNat count.toNat
  have quotient : total.toNat / count.toNat ≤ count.toNat * (total.toNat / count.toNat) :=
    Nat.le_mul_of_pos_left _ positive
  rw [expectedCount, Word.div, if_neg some, Ending.bind, Word.mod, if_neg some, Ending.bind,
    share]
  by_cases early : place < total % count
  · have before : place.toNat < total.toNat % count.toNat := by
      rw [← UInt64.toNat_mod]
      exact UInt64.lt_iff_toNat_lt.mp early
    have fits : (total / count).toNat + (1 : UInt64).toNat < UInt64.size := by
      rw [UInt64.toNat_div, UInt64.toNat_one]
      omega
    rw [if_pos early, if_pos before, Word.add, if_pos fits]
    refine ⟨_, rfl, ?_⟩
    rw [UInt64.toNat_add, ← UInt64.toNat_div]
    exact Nat.mod_eq_of_lt fits
  · have late : ¬ place.toNat < total.toNat % count.toNat := by
      rw [← UInt64.toNat_mod]
      exact fun before => early (UInt64.lt_iff_toNat_lt.mpr before)
    have fits : (total / count).toNat + (0 : UInt64).toNat < UInt64.size := by
      rw [UInt64.toNat_div, UInt64.toNat_zero]
      omega
    rw [if_neg early, if_neg late, Word.add, if_pos fits]
    refine ⟨_, rfl, ?_⟩
    rw [UInt64.toNat_add, ← UInt64.toNat_div]
    exact Nat.mod_eq_of_lt fits

/-- The check passes if every element was given out as often as its share, and leaves
the counts of all others. -/
theorem exists_check (total : UInt64) {count : UInt64} (some : count ≠ 0)
    {place : UInt64} {elements : List String} {tally : Tally} (distinct : elements.Nodup)
    (within : place.toNat + elements.length ≤ count.toNat)
    (shares : ∀ index element, elements[index]? = .some element →
      tally.counted element = share total.toNat count.toNat (place.toNat + index)) :
    ∃ left, check total count place elements tally = .returned (.ok left) ∧
      ∀ element ∈ left.keys, element ∈ tally.keys ∧ element ∉ elements := by
  induction elements generalizing place tally with
  | nil =>
    refine ⟨tally, rfl, ?_⟩
    intro element known
    exact ⟨known, List.not_mem_nil⟩
  | cons element rest ih =>
    rw [List.nodup_cons] at distinct
    rw [List.length_cons] at within
    obtain ⟨expected, computes, same⟩ := exists_expectedCount total some place
    have got : tally.count element = expected := by
      apply UInt64.toNat_inj.mp
      rw [same]
      exact shares 0 element rfl
    have bound := count.toNat_lt
    have next : (place + 1).toNat = place.toNat + 1 := by
      rw [UInt64.toNat_add, UInt64.toNat_one]
      exact Nat.mod_eq_of_lt (by omega)
    have withinRest : (place + 1).toNat + rest.length ≤ count.toNat := by omega
    have sharesRest : ∀ index other, rest[index]? = .some other →
        Tally.counted (tally.erase element) other =
          share total.toNat count.toNat ((place + 1).toNat + index) := by
      intro index other found
      have apart : element ≠ other := by
        rintro rfl
        exact distinct.1 (List.mem_of_getElem? found)
      have kept : Tally.counted (tally.erase element) other = tally.counted other := by
        rw [Tally.counted, Tally.count, Table.get?_erase, if_neg apart]
        rfl
      rw [kept, shares (index + 1) other found, next, Nat.add_assoc, Nat.add_comm 1 index]
    obtain ⟨left, passes, rested⟩ := ih distinct.2 withinRest sharesRest
    refine ⟨left, ?_, ?_⟩
    · rw [check, computes, Ending.bind]
      simp only [got, if_pos, passes]
    · intro other known
      obtain ⟨kept, spared⟩ := rested other known
      obtain ⟨apart, before⟩ := Table.mem_keys_erase.mp kept
      exact ⟨before, List.not_mem_cons_of_ne_of_not_mem apart spared⟩

end CyclePhase

end Stress

end Carousel
