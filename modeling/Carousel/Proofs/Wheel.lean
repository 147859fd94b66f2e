/-
# Wheels and the records that hold them

A wheel is a cycle as its users see it: elements, of which there is at least
one, and the place of the element that the next advance answers. A record holds
a wheel if it lists the place and the elements, in this order, and nothing else.

The central fact is that the native script turns wheels: on a record that holds
one it answers the element at the place, and leaves the record that holds the
wheel turned by one place. A wheel of `2 ^ 64` elements or more could not be
turned past the last place that a word can name, so the fact is stated below
that number.
-/

import Carousel.Cycle.Handle
import Carousel.Proofs.Numeral

namespace Carousel

namespace Cycle

/-- The names of the element fields are the decimals of consecutive numbers. -/
theorem names_elementFields (start : Nat) (elements : List String) :
    (elementFields start elements).map Prod.fst =
      (List.range' start elements.length).map Numeral.render := by
  induction elements generalizing start with
  | nil => rfl
  | cons element rest ih =>
    rw [elementFields, List.map_cons, ih, List.length_cons, List.range'_succ,
      List.map_cons]

theorem nodup_names_elementFields (start : Nat) (elements : List String) :
    ((elementFields start elements).map Prod.fst).Nodup := by
  rw [names_elementFields]
  have ascending := List.pairwise_lt_range' (s := start) (n := elements.length)
  exact List.pairwise_map.mpr (ascending.imp fun before same =>
    Nat.ne_of_lt before (Numeral.render_injective same))

/-- Every element field is named by digits. -/
theorem isElementField_of_mem {start : Nat} {elements : List String}
    {name : String}
    (listed : name ∈ (elementFields start elements).map Prod.fst) :
    isElementField name = true := by
  rw [names_elementFields, List.mem_map] at listed
  obtain ⟨index, _, rfl⟩ := listed
  exact isElementField_render index

theorem nodup_names_fields (text : String) (elements : List String) :
    (((currentField, text) :: elementFields 0 elements).map Prod.fst).Nodup := by
  rw [List.map_cons, List.nodup_cons]
  refine ⟨fun listed => ?_, nodup_names_elementFields 0 elements⟩
  have element := isElementField_of_mem listed
  rw [isElementField_currentField] at element
  exact absurd element (by decide)

/-- The field with the decimal of an index holds the element at the index. -/
theorem find_elementFields (start index : Nat) (elements : List String) :
    Entries.find (Numeral.render (start + index))
      (elementFields start elements) = elements[index]? := by
  induction elements generalizing start index with
  | nil => rfl
  | cons element rest ih =>
    rw [elementFields, Entries.find]
    cases index with
    | zero => rw [Nat.add_zero, if_pos rfl, List.getElem?_cons_zero]
    | succ index =>
      have other : Numeral.render start ≠ Numeral.render (start + (index + 1)) := by
        intro same
        have := Numeral.render_injective same
        omega
      rw [if_neg other, List.getElem?_cons_succ, ← ih (start + 1) index]
      congr 2
      omega

end Cycle

/-- A cycle as its users see it. -/
structure Wheel where
  elements : List String
  position : Nat
  position_lt : position < elements.length
  deriving DecidableEq

namespace Wheel

open Carousel.Cycle

/-- The wheel that stands on the first of the elements, if there is one. -/
def fresh? (elements : List String) : Option Wheel :=
  if filled : 0 < elements.length then some ⟨elements, 0, filled⟩ else none

variable (wheel : Wheel)

/-- The element that the wheel stands on. -/
def current : String :=
  wheel.elements.get ⟨wheel.position, wheel.position_lt⟩

/-- The wheel on its next element, which after the last one is the first. -/
def turn : Wheel where
  elements := wheel.elements
  position := (wheel.position + 1) % wheel.elements.length
  position_lt := Nat.mod_lt _ (Nat.zero_lt_of_lt wheel.position_lt)

/-- The wheel has fewer places than there are words. -/
def Small : Prop :=
  wheel.elements.length < Numeral.wordBound

/-- The record that holds the wheel, and nothing else. -/
def record : Record where
  entries :=
    (currentField, Numeral.render wheel.position) ::
      elementFields 0 wheel.elements
  distinct := nodup_names_fields _ wheel.elements

theorem fresh?_nil : fresh? [] = none :=
  rfl

/-- A list with an element makes a wheel that stands on its first place. -/
theorem fresh?_cons (element : String) (rest : List String) :
    fresh? (element :: rest) =
      some ⟨element :: rest, 0, Nat.zero_lt_succ rest.length⟩ :=
  rfl

/-- A fresh wheel has the given elements and stands on its first place. -/
theorem eq_of_fresh? {elements : List String} {wheel : Wheel}
    (fresh : fresh? elements = some wheel) :
    wheel.elements = elements ∧ wheel.position = 0 := by
  cases elements with
  | nil => cases fresh
  | cons element rest =>
    cases fresh
    exact ⟨rfl, rfl⟩

@[simp]
theorem elements_turn : wheel.turn.elements = wheel.elements :=
  rfl

theorem getElem?_position :
    wheel.elements[wheel.position]? = some wheel.current :=
  List.getElem?_eq_getElem wheel.position_lt

/-! ## What the record of a wheel shows -/

/-- A record that holds nothing but the place and the elements of a wheel is the
record of the wheel. -/
theorem eq_record {record : Record}
    (listed : record.entries = (currentField, Numeral.render wheel.position) ::
      elementFields 0 wheel.elements) : record = wheel.record :=
  Table.ext listed

theorem get?_currentField_record :
    wheel.record.get? currentField = some (Numeral.render wheel.position) := by
  rw [Table.get?, record, Entries.find, if_pos rfl]

theorem get?_render_record (index : Nat) :
    wheel.record.get? (Numeral.render index) = wheel.elements[index]? := by
  have found := find_elementFields 0 index wheel.elements
  rw [Nat.zero_add] at found
  rw [Table.get?, record, Entries.find,
    if_neg (render_ne_currentField index).symm, found]

theorem elementCount_record : elementCount wheel.record = wheel.elements.length := by
  have every : ((elementFields 0 wheel.elements).map Prod.fst).filter isElementField =
      (elementFields 0 wheel.elements).map Prod.fst :=
    List.filter_eq_self.mpr fun _ => isElementField_of_mem
  rw [elementCount, Table.keys, record, List.map_cons, List.filter_cons,
    isElementField_currentField, if_neg (by decide), every, List.length_map,
    ← List.length_map Prod.fst, names_elementFields, List.length_map,
    List.length_range']

/-- The place in the record can be read, as long as it is a word. -/
theorem currentIndex_record (small : wheel.Small) :
    currentIndex wheel.record = some wheel.position := by
  have within : wheel.position < Numeral.wordBound :=
    Nat.lt_trans wheel.position_lt small
  rw [currentIndex, get?_currentField_record, Option.bind_some,
    Numeral.parse_render within]
  rfl

/-! ## Writing and turning wheels -/

/-- The fields of a fresh cycle make the record of a wheel on its first place. -/
theorem ofList_freshFields {elements : List String} {wheel : Wheel}
    (fresh : fresh? elements = some wheel) :
    Table.ofList (freshFields elements) = wheel.record := by
  cases elements with
  | nil => cases fresh
  | cons element rest =>
    cases fresh
    apply eq_record
    exact Table.entries_ofList (nodup_names_fields _ _)

theorem isEmpty_record : wheel.record.isEmpty = false :=
  rfl

/-- Only the place changes when a wheel is turned. -/
theorem insert_currentField_record :
    wheel.record.insert currentField (Numeral.render wheel.turn.position) =
      wheel.turn.record := by
  apply eq_record
  simp only [Table.insert, record, Entries.set, if_pos, elements_turn]

/-- Advancing the record of a wheel answers the element that the wheel stands on,
and leaves the record of the wheel turned by one place. -/
theorem advanceRecord_record (key : String)
    (small : wheel.Small) :
    advanceRecord key wheel.record =
      .returned (.ok (wheel.current, wheel.turn.record)) := by
  have place := wheel.position_lt
  have few : wheel.elements.length < Numeral.wordBound := small
  have next : ¬ Numeral.wordBound ≤ wheel.position + 1 := by omega
  have filled : elementCount wheel.record ≠ 0 := by
    rw [elementCount_record]
    omega
  have found : wheel.record.get? (Numeral.render wheel.position) =
      some wheel.current := by
    rw [get?_render_record, getElem?_position]
  rw [advanceRecord, currentIndex_record wheel small]
  simp only [found, if_neg next]
  rw [remainder, if_neg filled, elementCount_record, Ending.map]
  rw [← insert_currentField_record]
  rfl

/-- The native script answers the element that a wheel stands on, and turns the
wheel by one place. -/
theorem advance_of_record {records : Records} {key : String}
    (held : records.get? key = some wheel.record)
    (small : wheel.Small) (args : List String) :
    advance records [key] args =
      (.returned (.ok (.text wheel.current)),
        records.insert key wheel.turn.record) := by
  rw [advance]
  simp only [held, advanceRecord_record wheel key small]

end Wheel

namespace Cycle

/-- The native script finds nothing to advance where there is no record. -/
theorem advance_of_missing {records : Records} {key : String}
    (missing : records.get? key = none) (args : List String) :
    advance records [key] args = (.returned (.ok .nil), records) := by
  rw [advance]
  simp only [missing]

/-- A record with an element at some index has an element field. -/
theorem elementCount_ne_zero {record : Record} {index : Nat} {element : String}
    (found : record.get? (Numeral.render index) = some element) :
    elementCount record ≠ 0 := by
  intro none
  rw [elementCount, List.length_eq_zero_iff, List.filter_eq_nil_iff] at none
  by_cases listed : Numeral.render index ∈ record.keys
  · exact none _ listed (isElementField_render index)
  · rw [Table.get?, Entries.find_eq_none_iff.mpr listed] at found
    cases found

/-- Advancing a record that holds anything whatever ends in a failure of the
script or with an element. It never panics. -/
theorem advanceRecord_cases (key : String) (record : Record) :
    (∃ message, advanceRecord key record = .returned (.error (.script message))) ∨
      ∃ element moved,
        advanceRecord key record = .returned (.ok (element, moved)) := by
  rw [advanceRecord]
  cases currentIndex record with
  | none => exact .inl ⟨_, rfl⟩
  | some index =>
    cases found : record.get? (Numeral.render index) with
    | none =>
      simp only [found]
      exact .inl ⟨_, rfl⟩
    | some element =>
      simp only [found]
      by_cases last : Numeral.wordBound ≤ index + 1
      · rw [if_pos last]
        exact .inl ⟨_, rfl⟩
      · rw [if_neg last, remainder, if_neg (elementCount_ne_zero found)]
        exact .inr ⟨element, _, rfl⟩

/-- What the native script can do: fail or find nothing, and leave the records as
they are, or answer an element, and change the record under its one key. -/
theorem advance_cases (records : Records) (keys args : List String) :
    (∃ message,
      advance records keys args =
        (.returned (.error (.script message)), records)) ∨
    advance records keys args = (.returned (.ok .nil), records) ∨
    ∃ key element moved, keys = [key] ∧
      advance records keys args =
        (.returned (.ok (.text element)), records.insert key moved) := by
  match keys with
  | [] => exact .inl ⟨_, rfl⟩
  | _ :: _ :: _ => exact .inl ⟨_, rfl⟩
  | [key] =>
    cases held : records.get? key with
    | none => exact .inr (.inl (advance_of_missing held args))
    | some record =>
      rcases advanceRecord_cases key record with ⟨message, failed⟩ | ⟨element, moved, found⟩
      · refine .inl ⟨message, ?_⟩
        simp only [advance, held, failed]
      · refine .inr (.inr ⟨key, element, moved, rfl, ?_⟩)
        simp only [advance, held, found]

/-- The native script touches no record but the one under its key, whatever it
finds there. -/
theorem get?_advance_of_not_mem {records : Records} {keys : List String} {name : String}
    (other : name ∉ keys) (args : List String) :
    (advance records keys args).2.get? name = records.get? name := by
  rcases advance_cases records keys args with
    ⟨_, failed⟩ | missing | ⟨key, _, moved, same, found⟩
  · rw [failed]
  · rw [missing]
  · subst same
    have apart : key ≠ name := fun same => other (same ▸ List.mem_singleton_self key)
    rw [found, Table.get?_insert, if_neg apart]

/-- The native script never claims that it is unknown. -/
theorem advance_ne_noScript (records : Records) (keys args : List String)
    (digest : String) :
    (advance records keys args).1 ≠ .returned (.error (.noScript digest)) := by
  rcases advance_cases records keys args with
    ⟨_, failed⟩ | missing | ⟨_, _, _, _, found⟩
  · rw [failed]
    simp
  · rw [missing]
    simp
  · rw [found]
    simp

end Cycle

end Carousel
