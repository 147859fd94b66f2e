/-
# What one advance does to any records

Records may have been written by anyone, so an advance has to make do with whatever it
finds. It fails if it is not given exactly one key, or if the record under the key has no
readable index, no element at its index, or an index that has no successor among the
words; it finds nothing if there is no record. In all these cases the records stay as
they are. Otherwise it answers the element, and moves the index on, round the number of
fields that are named by digits.

An index is readable if it is any numeral of a word, but the element is looked up under
the canonical decimal of the index. That the record has an element field at all, so that
there is something to go round, is not looked into: it follows from the element that was
found.
-/

import Carousel.Proofs.Canonical
import Carousel.Proofs.Wheel

namespace Carousel

namespace Cycle

/-- The index field of the record is a numeral of the index, which is a word. -/
def StandsAt (record : Record) (index : Nat) : Prop :=
  ∃ text, record.get? currentField = some text ∧
    Numeral.Denotes text.toList index ∧ index < Numeral.wordBound

/-- What keeps a record from being advanced. -/
inductive Obstructed (record : Record) : Prop
  /-- The index is missing, or is no numeral of a word. -/
  | unreadable (lost : ∀ index, ¬ StandsAt record index)
  /-- The decimal of the index is not a field. -/
  | noElement {index : Nat} (stands : StandsAt record index)
    (missing : record.get? (Numeral.render index) = none)
  /-- The index is the largest word. -/
  | lastIndex {index : Nat} (stands : StandsAt record index)
    (last : index = Numeral.wordBound - 1)

/-- The record after an advance from an index. -/
def moved (record : Record) (index : Nat) : Record :=
  record.insert currentField
    (Numeral.render ((index + 1) % elementCount record))

/-- Nothing keeps the record from being advanced from the index, where it has the
element. -/
structure Advances (record : Record) (index : Nat) (element : String) : Prop where
  stands : StandsAt record index
  found : record.get? (Numeral.render index) = some element
  below : index + 1 < Numeral.wordBound

section

variable {record : Record} {index : Nat} {element : String}

/-- The index that is read is the one at which the record stands. -/
theorem currentIndex_eq_some_iff : currentIndex record = some index ↔ StandsAt record index := by
  have positive : 0 < Numeral.wordBound := by decide
  rw [currentIndex, Option.bind_eq_some_iff]
  refine exists_congr fun text => and_congr_right fun _ => ?_
  rw [← Numeral.read_eq_ok_iff positive, ← Numeral.parse]
  cases Numeral.parse Numeral.wordBound text with
  | error flaw => simp [Except.toOption]
  | ok number => simp [Except.toOption]

theorem StandsAt.unique {other : Nat} (stands : StandsAt record index)
    (also : StandsAt record other) : index = other := by
  rw [← currentIndex_eq_some_iff] at stands also
  exact Option.some.inj (stands.symm.trans also)

theorem StandsAt.lt_wordBound (stands : StandsAt record index) :
    index < Numeral.wordBound := by
  obtain ⟨_, _, _, below⟩ := stands
  exact below

/-- The index that was written last is the one at which the record stands. -/
theorem standsAt_insert (record : Record) (below : index < Numeral.wordBound) :
    StandsAt (record.insert currentField (Numeral.render index)) index := by
  rw [← currentIndex_eq_some_iff, currentIndex, Table.get?_insert, if_pos rfl,
    Option.bind_some, Numeral.parse_render below]
  rfl

/-- A record is obstructed, or it advances. -/
theorem obstructed_or_advances (record : Record) :
    Obstructed record ∨ ∃ index element, Advances record index element := by
  by_cases readable : ∃ index, StandsAt record index
  · obtain ⟨index, stands⟩ := readable
    cases found : record.get? (Numeral.render index) with
    | none => exact .inl (.noElement stands found)
    | some element =>
      by_cases last : index = Numeral.wordBound - 1
      · exact .inl (.lastIndex stands last)
      · have within := stands.lt_wordBound
        exact .inr ⟨index, element, stands, found, by omega⟩
  · exact .inl (.unreadable fun index stands => readable ⟨index, stands⟩)

/-! ## One record -/

theorem mem_keys_iff {field : String} :
    field ∈ record.keys ↔ ∃ value, record.get? field = some value := by
  rw [← Option.isSome_iff_exists, Option.isSome_iff_ne_none, Table.get?, ne_eq,
    Entries.find_eq_none_iff, Classical.not_not]
  rfl

theorem mem_filter_keys_iff {field : String} :
    field ∈ record.keys.filter isElementField ↔
      (∃ value, record.get? field = some value) ∧
        field.toList ≠ [] ∧ ∀ c ∈ field.toList, c.isDigit = true := by
  rw [List.mem_filter, mem_keys_iff, isElementField, Bool.and_eq_true, Bool.not_eq_true',
    List.isEmpty_eq_false_iff, List.all_eq_true]

/-- The elements are counted by the names of the fields: list the fields that are named by
digits, each of them once, and there are as many elements as fields in the list. -/
theorem elementCount_eq_length {names : List String} (distinct : names.Nodup)
    (named : ∀ field, field ∈ names ↔ (∃ value, record.get? field = some value) ∧
      field.toList ≠ [] ∧ ∀ c ∈ field.toList, c.isDigit = true) :
    elementCount record = names.length := by
  have own : (record.keys.filter isElementField).Nodup := record.distinct.filter _
  apply List.Perm.length_eq
  rw [List.perm_ext_iff_of_nodup own distinct]
  intro field
  rw [named]
  exact mem_filter_keys_iff

/-- Writing the index neither adds nor takes away a field of an element. -/
theorem elementCount_insert_currentField (record : Record) (text : String) :
    elementCount (record.insert currentField text) = elementCount record := by
  refine elementCount_eq_length (record.distinct.filter _) fun field => ?_
  rw [Table.get?_insert]
  refine mem_filter_keys_iff.trans (and_congr_left fun digits => ?_)
  have other : currentField ≠ field := by
    rintro rfl
    exact absurd (digits.2 'c' (by decide)) (by decide)
  rw [if_neg other]

/-- Where there is an element at the index, there are elements to go round. -/
theorem Advances.elementCount_pos (advances : Advances record index element) :
    1 ≤ elementCount record :=
  Nat.one_le_iff_ne_zero.mpr (elementCount_ne_zero advances.found)

/-- After an advance the record stands at the next index, below the number of its
elements. -/
theorem Advances.standsAt_moved (advances : Advances record index element) :
    StandsAt (moved record index) ((index + 1) % elementCount record) := by
  apply standsAt_insert
  exact Nat.lt_of_le_of_lt (Nat.mod_le _ _) advances.below

theorem elementCount_moved (record : Record) (index : Nat) :
    elementCount (moved record index) = elementCount record :=
  elementCount_insert_currentField record _

theorem advanceRecord_of_advances (key : String) (advances : Advances record index element) :
    advanceRecord key record = .returned (.ok (element, moved record index)) := by
  obtain ⟨stands, found, below⟩ := advances
  rw [advanceRecord, currentIndex_eq_some_iff.mpr stands]
  simp only [found, if_neg (Nat.not_le_of_lt below)]
  rw [remainder, if_neg (elementCount_ne_zero found)]
  rfl

theorem advanceRecord_of_obstructed (key : String) (obstructed : Obstructed record) :
    ∃ message, advanceRecord key record = .returned (.error (.script message)) := by
  rw [advanceRecord]
  cases obstructed with
  | unreadable lost =>
    have unreadable : currentIndex record = none := by
      rw [Option.eq_none_iff_forall_ne_some]
      exact fun index read => lost index (currentIndex_eq_some_iff.mp read)
    rw [unreadable]
    exact ⟨_, rfl⟩
  | @noElement index stands missing =>
    rw [currentIndex_eq_some_iff.mpr stands]
    simp only [missing]
    exact ⟨_, rfl⟩
  | @lastIndex index stands last =>
    have past : Numeral.wordBound ≤ index + 1 := by omega
    rw [currentIndex_eq_some_iff.mpr stands]
    cases found : record.get? (Numeral.render index) with
    | none =>
      simp only [found]
      exact ⟨_, rfl⟩
    | some element =>
      simp only [found, if_pos past]
      exact ⟨_, rfl⟩

end

/-! ## All records -/

section

variable {records : Records} {key : String} {record : Record} {index : Nat}
  {element : String}

theorem advance_of_advances (held : records.get? key = some record)
    (advances : Advances record index element) (args : List String) :
    advance records [key] args =
      (.returned (.ok (.text element)), records.insert key (moved record index)) := by
  simp only [advance, held, advanceRecord_of_advances key advances]

theorem advance_of_obstructed (held : records.get? key = some record)
    (obstructed : Obstructed record) (args : List String) :
    ∃ message,
      advance records [key] args = (.returned (.error (.script message)), records) := by
  obtain ⟨message, failed⟩ := advanceRecord_of_obstructed key obstructed
  refine ⟨message, ?_⟩
  simp only [advance, held, failed]

end

theorem advance_of_length_ne_one (records : Records) {keys : List String}
    (number : keys.length ≠ 1) (args : List String) :
    ∃ message,
      advance records keys args = (.returned (.error (.script message)), records) := by
  match keys with
  | [] | _ :: _ :: _ => exact ⟨_, rfl⟩
  | [_] => exact absurd rfl number

/-- The native script cannot make an advance: it is not given exactly one key, or the
record under the key is obstructed. -/
def Refused (records : Records) (keys : List String) : Prop :=
  keys.length ≠ 1 ∨
    ∃ key record, keys = [key] ∧ records.get? key = some record ∧ Obstructed record

/-- There is no record under the one key. -/
def Unheld (records : Records) (keys : List String) : Prop :=
  ∃ key, keys = [key] ∧ records.get? key = none

/-- Every list of keys is refused, leads to no record, or leads to one that advances. -/
theorem refused_or_unheld_or_advances (records : Records) (keys : List String) :
    Refused records keys ∨ Unheld records keys ∨
      ∃ key record index element, keys = [key] ∧ records.get? key = some record ∧
        Advances record index element := by
  by_cases number : keys.length = 1
  · obtain ⟨key, rfl⟩ := List.length_eq_one_iff.mp number
    cases held : records.get? key with
    | none => exact .inr (.inl ⟨key, rfl, held⟩)
    | some record =>
      rcases obstructed_or_advances record with obstructed | ⟨index, element, advances⟩
      · exact .inl (.inr ⟨key, record, rfl, held, obstructed⟩)
      · exact .inr (.inr ⟨key, record, index, element, rfl, held, advances⟩)
  · exact .inl (.inl number)

section

variable {records : Records} {keys : List String}

theorem advance_of_refused (refused : Refused records keys) (args : List String) :
    ∃ message,
      advance records keys args = (.returned (.error (.script message)), records) := by
  rcases refused with number | ⟨key, record, rfl, held, obstructed⟩
  · exact advance_of_length_ne_one records number args
  · exact advance_of_obstructed held obstructed args

theorem advance_of_unheld (unheld : Unheld records keys) (args : List String) :
    advance records keys args = (.returned (.ok .nil), records) := by
  obtain ⟨key, rfl, missing⟩ := unheld
  exact advance_of_missing missing args

end

/-- What a run of the native script comes to. -/
structure AdvancesExactly (records : Records) (keys args : List String) : Prop where
  returns : ∃ answer, (advance records keys args).1 = .returned answer
  fails_iff : (∃ message,
      (advance records keys args).1 = .returned (.error (.script message))) ↔
    Refused records keys
  nil_iff : (advance records keys args).1 = .returned (.ok .nil) ↔ Unheld records keys
  untouched : Refused records keys ∨ Unheld records keys →
    (advance records keys args).2 = records
  moves : ¬ Refused records keys → ¬ Unheld records keys →
    ∃ key record index element,
      keys = [key] ∧ records.get? key = some record ∧ Advances record index element ∧
      1 ≤ elementCount record ∧
      advance records keys args =
        (.returned (.ok (.text element)), records.insert key (moved record index)) ∧
      StandsAt (moved record index) ((index + 1) % elementCount record) ∧
      (index + 1) % elementCount record < elementCount (moved record index)

/-- **An advance is exact.** Whatever the records hold and whatever keys and arguments
are given, the native script returns. It fails exactly if it is refused, it finds nothing
exactly if there is no record, and in both cases it changes nothing. Otherwise it answers
the element that the record has at its index, and changes nothing but the index, to the
next one round the elements. -/
theorem advance_exactly (records : Records) (keys args : List String) :
    AdvancesExactly records keys args := by
  have refusal := fun refused : Refused records keys => advance_of_refused refused args
  have nothing := fun unheld : Unheld records keys => advance_of_unheld unheld args
  rcases refused_or_unheld_or_advances records keys with
    refused | unheld | ⟨key, record, index, element, rfl, held, advances⟩
  · obtain ⟨message, failed⟩ := refusal refused
    rw [failed] at nothing
    exact
      { returns := ⟨_, congrArg Prod.fst failed⟩
        fails_iff := iff_of_true ⟨message, congrArg Prod.fst failed⟩ refused
        nil_iff := by
          rw [failed]
          exact ⟨nofun, fun unheld => absurd (nothing unheld) (by simp)⟩
        untouched := fun _ => congrArg Prod.snd failed
        moves := fun allowed => absurd refused allowed }
  · have missing := nothing unheld
    exact
      { returns := ⟨_, congrArg Prod.fst missing⟩
        fails_iff := by
          rw [missing] at refusal ⊢
          refine ⟨nofun, fun refused => ?_⟩
          obtain ⟨message, failed⟩ := refusal refused
          cases failed
        nil_iff := iff_of_true (congrArg Prod.fst missing) unheld
        untouched := fun _ => congrArg Prod.snd missing
        moves := fun _ present => absurd unheld present }
  · have answered := advance_of_advances held advances args
    have next := Nat.mod_lt (index + 1) advances.elementCount_pos
    rw [answered] at refusal nothing
    have allowed : ¬ Refused records [key] := by
      intro refused
      obtain ⟨message, failed⟩ := refusal refused
      cases failed
    have present : ¬ Unheld records [key] := by
      intro unheld
      cases nothing unheld
    exact
      { returns := ⟨_, congrArg Prod.fst answered⟩
        fails_iff := by
          rw [answered]
          exact iff_of_false nofun allowed
        nil_iff := by
          rw [answered]
          exact iff_of_false nofun present
        untouched := fun either => absurd either (not_or.mpr ⟨allowed, present⟩)
        moves := fun _ _ => ⟨key, record, index, element, rfl, held, advances,
          advances.elementCount_pos, answered, advances.standsAt_moved,
          (elementCount_moved record index).symm ▸ next⟩ }

end Cycle

end Carousel
