/-
# What becomes of a record that is advanced again and again

A record that was written by hand may advance a number of times before it is found out:
the index may lie beyond the elements, an element may be missing, and fields such as `01`
count as elements although no index leads to them. It is found out soon. As soon as the
first advance has brought the index below the number of elements, every further one takes
the next index round, so that after as many advances as there are elements all indices
have been tried. From the first failure on nothing changes any more.

A record that is never found out is whole: it stands at one of the numbers below the
number of its elements, and its element fields are exactly the decimals of these numbers.
Then the elements come round in order. Other fields do not matter, and neither does the
way in which the index was written at first.
-/

import Carousel.Proofs.Advancing
import Mathlib.Data.List.Perm.Subperm
import Mathlib.Data.List.Rotate
import Mathlib.Data.Nat.Find

namespace Carousel

namespace Cycle

/-! ## Whole records -/

/-- A field of an element: it is in the record, and named by digits. -/
def HasElementField (record : Record) (field : String) : Prop :=
  field ∈ record.keys ∧ isElementField field = true

/-- The record stands at one of the numbers below the number of its elements, and its
element fields are the decimals of these numbers. -/
structure Whole (record : Record) : Prop where
  stands : ∃ index < elementCount record, StandsAt record index
  fields_iff : ∀ field, HasElementField record field ↔
    ∃ index < elementCount record, field = Numeral.render index

section

variable {record now : Record} {index : Nat} {element : String}

/-- A record has an element at an index if it has the field. -/
theorem hasElementField_render_iff :
    HasElementField record (Numeral.render index) ↔
      ∃ element, record.get? (Numeral.render index) = some element := by
  rw [HasElementField, mem_keys_iff, and_iff_left (isElementField_render index)]

theorem elementCount_le_size (record : Record) : elementCount record ≤ record.size := by
  refine Nat.le_trans (List.length_filter_le _ _) ?_
  rw [Table.keys, List.length_map]
  exact Nat.le_refl _

/-- If every number below the number of element fields is the name of one of them, then
there are no others. -/
theorem hasElementField_iff_of_all
    (every : ∀ index < elementCount record, HasElementField record (Numeral.render index))
    (field : String) :
    HasElementField record field ↔
      ∃ index < elementCount record, field = Numeral.render index := by
  let names := (List.range (elementCount record)).map Numeral.render
  have distinct : names.Nodup :=
    List.nodup_range.map fun _ _ same => Numeral.render_injective same
  have listed : names ⊆ record.keys.filter isElementField := by
    intro name among
    obtain ⟨index, below, rfl⟩ := List.mem_map.mp among
    exact List.mem_filter.mpr (every index (List.mem_range.mp below))
  have enough : (record.keys.filter isElementField).length ≤ names.length := by
    rw [List.length_map, List.length_range]
    exact Nat.le_refl _
  have all := (List.subperm_of_subset distinct listed).perm_of_length_le enough
  rw [HasElementField, ← List.mem_filter, ← all.mem_iff, List.mem_map]
  refine exists_congr fun index => ?_
  rw [List.mem_range, eq_comm (a := field)]

/-! ## Records that differ in their index -/

/-- The record now stands at the index, and is otherwise as it was. -/
structure Placed (record now : Record) (index : Nat) : Prop where
  stands : StandsAt now index
  get?_eq : ∀ field, field ≠ currentField → now.get? field = record.get? field
  count_eq : elementCount now = elementCount record

theorem placed_self (stands : StandsAt record index) : Placed record record index :=
  ⟨stands, fun _ _ => rfl, rfl⟩

variable (placed : Placed record now index)

include placed

/-- A record that was placed advances if the element was there before. -/
theorem Placed.advances (found : record.get? (Numeral.render index) = some element)
    (below : index + 1 < Numeral.wordBound) : Advances now index element where
  stands := placed.stands
  found := (placed.get?_eq _ (render_ne_currentField index)).trans found
  below := below

theorem Placed.found {other : Nat} (advances : Advances now other element) :
    record.get? (Numeral.render index) = some element := by
  rw [← placed.get?_eq _ (render_ne_currentField index),
    placed.stands.unique advances.stands]
  exact advances.found

theorem Placed.moved (advances : Advances now index element) :
    Placed record (moved now index) ((index + 1) % elementCount record) where
  stands := placed.count_eq ▸ advances.standsAt_moved
  get?_eq := by
    intro field other
    rw [Cycle.moved, Table.get?_insert, if_neg (Ne.symm other)]
    exact placed.get?_eq field other
  count_eq := (elementCount_moved now index).trans placed.count_eq

end

/-! ## Many advances -/

section

variable (key : String) (args : Nat → List String) (records : Records)

/-- The records after a number of advances on the key, each with arguments of its own. -/
def recordsAfter : Nat → Records
  | 0 => records
  | calls + 1 => (advance (recordsAfter calls) [key] (args calls)).2

/-- How a call of many ends, the first one having the number zero. -/
def endingOf (call : Nat) : Ending (Except Failure Scalar) :=
  (advance (recordsAfter key args records call) [key] (args call)).1

/-- The call answers an element. -/
def Succeeds (call : Nat) : Prop :=
  ∃ element, endingOf key args records call = .returned (.ok (.text element))

/-- From the call on every call fails in the same way and changes nothing. -/
def StuckFrom (call : Nat) : Prop :=
  ∃ message, ∀ later, call ≤ later →
    endingOf key args records later = .returned (.error (.script message)) ∧
      recordsAfter key args records later = recordsAfter key args records call

/-- After a number of calls the record under the key stands at the index. -/
def StandsAfter (calls index : Nat) : Prop :=
  ∃ now, (recordsAfter key args records calls).get? key = some now ∧ StandsAt now index

/-- After a number of calls the record stands at the index, and is otherwise the given
one. -/
def PlacedAfter (record : Record) (calls index : Nat) : Prop :=
  ∃ now, (recordsAfter key args records calls).get? key = some now ∧
    Placed record now index

/-- The index before a call, if all the calls before it succeed. -/
def slot (count index : Nat) : Nat → Nat
  | 0 => index
  | calls + 1 => (slot count index calls + 1) % count

end

theorem slot_succ (count index calls : Nat) :
    slot count index (calls + 1) = (index + (calls + 1)) % count := by
  induction calls with
  | zero => rfl
  | succ calls ih => rw [slot, ih, Nat.mod_add_mod, Nat.add_assoc]

/-- Every number below the number of elements has its turn within one round. -/
theorem exists_slot_eq {count target : Nat} (index : Nat) (below : target < count) :
    ∃ calls < count, slot count index (calls + 1) = target := by
  have filled : 0 < count := Nat.zero_lt_of_lt below
  refine ⟨(target + (count - (index + 1) % count)) % count, Nat.mod_lt _ filled, ?_⟩
  have rest := Nat.mod_lt (index + 1) filled
  rw [slot_succ]
  calc
    _ = ((target + (count - (index + 1) % count)) % count + (index + 1)) % count := by
      congr 1
      omega
    _ = (target + (count - (index + 1) % count) + (index + 1) % count) % count := by
      rw [Nat.mod_add_mod, Nat.add_mod_mod]
    _ = (target + count) % count := by
      congr 1
      omega
    _ = target := by rw [Nat.add_mod_right, Nat.mod_eq_of_lt below]

section

variable {key : String} {args : Nat → List String} {records : Records}
  {record : Record} {index calls : Nat} {element : String}

/-! ### One call of many -/

/-- A call answers the element at the index if it is there, and moves on. -/
theorem PlacedAfter.advance (placed : PlacedAfter key args records record calls index)
    (found : record.get? (Numeral.render index) = some element)
    (below : index + 1 < Numeral.wordBound) :
    endingOf key args records calls = .returned (.ok (.text element)) ∧
      PlacedAfter key args records record (calls + 1)
        ((index + 1) % elementCount record) := by
  obtain ⟨now, held, place⟩ := placed
  have advances := place.advances found below
  have answered := advance_of_advances held advances (args calls)
  refine ⟨congrArg Prod.fst answered, Cycle.moved now index, ?_, place.moved advances⟩
  rw [recordsAfter, answered, Table.get?_insert, if_pos rfl]

theorem PlacedAfter.standsAfter (placed : PlacedAfter key args records record calls index) :
    StandsAfter key args records calls index := by
  obtain ⟨now, held, place⟩ := placed
  exact ⟨now, held, place.stands⟩

/-- A call that succeeds has found an element at the index. -/
theorem PlacedAfter.found (placed : PlacedAfter key args records record calls index)
    (succeeds : Succeeds key args records calls) :
    (∃ element, record.get? (Numeral.render index) = some element) ∧
      index + 1 < Numeral.wordBound := by
  obtain ⟨now, held, place⟩ := placed
  obtain ⟨answer, answered⟩ := succeeds
  rcases obstructed_or_advances now with obstructed | ⟨other, element, advances⟩
  · obtain ⟨message, failed⟩ := advance_of_obstructed held obstructed (args calls)
    rw [endingOf, failed] at answered
    cases answered
  · refine ⟨⟨element, place.found advances⟩, ?_⟩
    rw [place.stands.unique advances.stands]
    exact advances.below

variable (args) in
/-- The record under the key stays there, whatever becomes of the calls. -/
theorem exists_held (held : records.get? key = some record) (calls : Nat) :
    ∃ now, (recordsAfter key args records calls).get? key = some now := by
  induction calls with
  | zero => exact ⟨record, held⟩
  | succ calls ih =>
    obtain ⟨now, holding⟩ := ih
    rcases obstructed_or_advances now with obstructed | ⟨index, element, advances⟩
    · obtain ⟨_, failed⟩ := advance_of_obstructed holding obstructed (args calls)
      rw [recordsAfter, failed]
      exact ⟨now, holding⟩
    · rw [recordsAfter, advance_of_advances holding advances, Table.get?_insert, if_pos rfl]
      exact ⟨_, rfl⟩

/-- A call that does not succeed is not followed by one that does. The native script takes
no notice of its arguments. -/
theorem stuckFrom_of_not_succeeds (held : records.get? key = some record)
    (fails : ¬ Succeeds key args records calls) : StuckFrom key args records calls := by
  obtain ⟨now, holding⟩ := exists_held args held calls
  rcases obstructed_or_advances now with obstructed | ⟨index, element, advances⟩
  · obtain ⟨message, failed⟩ := advance_of_obstructed holding obstructed []
    refine ⟨message, fun later after => ?_⟩
    have unchanged : recordsAfter key args records later =
        recordsAfter key args records calls := by
      induction later, after using Nat.le_induction with
      | base => rfl
      | succ later _ ih =>
        rw [recordsAfter, ih]
        exact congrArg Prod.snd failed
    rw [endingOf, unchanged]
    exact ⟨congrArg Prod.fst failed, rfl⟩
  · have answered := advance_of_advances holding advances (args calls)
    exact absurd ⟨element, congrArg Prod.fst answered⟩ fails

/-! ### Records that are found out -/

/-- As long as all calls succeed, the index goes round. -/
theorem placedAfter_of_succeed (held : records.get? key = some record)
    (stands : StandsAt record index)
    (succeed : ∀ call < calls, Succeeds key args records call) :
    PlacedAfter key args records record calls (slot (elementCount record) index calls) := by
  induction calls with
  | zero => exact ⟨record, held, placed_self stands⟩
  | succ calls ih =>
    have placed := ih fun call before => succeed call (Nat.lt_succ_of_lt before)
    obtain ⟨⟨element, found⟩, below⟩ := placed.found (succeed calls (Nat.lt_succ_self calls))
    exact (placed.advance found below).2

/-- A record is whole if as many calls succeed as it has elements, and one more. -/
theorem whole_of_succeed (held : records.get? key = some record)
    (succeed : ∀ call ≤ elementCount record, Succeeds key args records call) :
    Whole record := by
  have started : ∃ index, StandsAt record index := by
    obtain ⟨element, answered⟩ := succeed 0 (Nat.zero_le _)
    rcases obstructed_or_advances record with obstructed | ⟨index, _, advances⟩
    · obtain ⟨message, failed⟩ := advance_of_obstructed held obstructed (args 0)
      rw [endingOf, recordsAfter, failed] at answered
      cases answered
    · exact ⟨index, advances.stands⟩
  obtain ⟨index, stands⟩ := started
  have visited : ∀ call ≤ elementCount record,
      HasElementField record (Numeral.render (slot (elementCount record) index call)) := by
    intro call within
    have placed : PlacedAfter key args records record call _ :=
      placedAfter_of_succeed held stands fun earlier before =>
        succeed earlier (Nat.le_of_lt (Nat.lt_of_lt_of_le before within))
    exact hasElementField_render_iff.mpr (placed.found (succeed call within)).1
  have every : ∀ target < elementCount record,
      HasElementField record (Numeral.render target) := by
    intro target below
    obtain ⟨call, within, reached⟩ := exists_slot_eq index below
    rw [← reached]
    exact visited (call + 1) within
  have fields_iff := hasElementField_iff_of_all every
  -- The first call has found its element among the fields, so its index is one of theirs.
  obtain ⟨place, below, same⟩ := (fields_iff _).mp (visited 0 (Nat.zero_le _))
  have first : index = place := Numeral.render_injective same
  exact ⟨⟨index, first ▸ below, stands⟩, fields_iff⟩

/-! ### Records that are whole -/

/-- A whole record has an element at every number below their count. -/
theorem Whole.exists_element (whole : Whole record) {target : Nat}
    (below : target < elementCount record) :
    ∃ element, record.get? (Numeral.render target) = some element :=
  hasElementField_render_iff.mp ((whole.fields_iff _).mpr ⟨target, below, rfl⟩)

/-- The elements of a whole record in order. -/
theorem Whole.exists_values (whole : Whole record) :
    ∃ values : List String, values.length = elementCount record ∧
      ∀ target, record.get? (Numeral.render target) = values[target]? := by
  refine ⟨(List.range (elementCount record)).map fun target =>
    (record.get? (Numeral.render target)).getD "", ?_, fun target => ?_⟩
  · rw [List.length_map, List.length_range]
  · rw [List.getElem?_map]
    by_cases below : target < elementCount record
    · obtain ⟨element, found⟩ := whole.exists_element below
      rw [List.getElem?_range below, found]
      simp [found]
    · rw [List.getElem?_eq_none (by simpa using below), Option.map_none]
      cases found : record.get? (Numeral.render target) with
      | none => rfl
      | some element =>
        have listed := (whole.fields_iff _).mp (hasElementField_render_iff.mpr ⟨element, found⟩)
        obtain ⟨other, within, same⟩ := listed
        exact absurd (Numeral.render_injective same ▸ within) below

section

variable (whole : Whole record) (held : records.get? key = some record)
  (few : record.size < Numeral.wordBound) (below : index < elementCount record)
  (stands : StandsAt record index)

include whole few in
/-- A call on a whole record succeeds, wherever it stands. -/
theorem Whole.advance {place : Nat} (within : place < elementCount record)
    (placed : PlacedAfter key args records record calls place) :
    ∃ element, record.get? (Numeral.render place) = some element ∧
      endingOf key args records calls = .returned (.ok (.text element)) ∧
      PlacedAfter key args records record (calls + 1)
        ((place + 1) % elementCount record) := by
  obtain ⟨element, found⟩ := whole.exists_element within
  have count := elementCount_le_size record
  exact ⟨element, found, placed.advance found (by omega)⟩

variable (args)

include whole held few below stands

/-- A whole record goes round for ever. -/
theorem Whole.placedAfter (calls : Nat) :
    PlacedAfter key args records record calls ((index + calls) % elementCount record) := by
  induction calls with
  | zero =>
    rw [Nat.add_zero, Nat.mod_eq_of_lt below]
    exact ⟨record, held, placed_self stands⟩
  | succ calls ih =>
    have within := Nat.mod_lt (index + calls) (Nat.zero_lt_of_lt below)
    obtain ⟨_, _, _, placed⟩ := whole.advance few within ih
    rw [Nat.mod_add_mod] at placed
    exact placed

theorem Whole.endingOf_eq (calls : Nat) :
    ∃ element, record.get? (Numeral.render ((index + calls) % elementCount record)) =
        some element ∧
      endingOf key args records calls = .returned (.ok (.text element)) := by
  have within := Nat.mod_lt (index + calls) (Nat.zero_lt_of_lt below)
  obtain ⟨element, found, answered, _⟩ :=
    whole.advance few within (whole.placedAfter args held few below stands calls)
  exact ⟨element, found, answered⟩

end

end

/-! ## The fate of a record -/

/-- The calls on the key answer the values round, each once, starting with the one at the
place, and leave the record at the place where it was. -/
def Rounds (key : String) (args : Nat → List String) (records : Records)
    (values : List String) (start place : Nat) : Prop :=
  StandsAfter key args records start place ∧
    (List.range values.length).map (fun step => endingOf key args records (start + step)) =
      (values.rotate place).map (fun value => .returned (.ok (.text value))) ∧
    StandsAfter key args records (start + values.length) place

/-- What becomes of the record under a key that is advanced again and again. -/
structure Fate (key : String) (args : Nat → List String) (records : Records)
    (record : Record) : Prop where
  settles : (∀ call, Succeeds key args records call) ∨
    ∃ call ≤ elementCount record, (∀ earlier < call, Succeeds key args records earlier) ∧
      StuckFrom key args records call
  forever_iff : (∀ call, Succeeds key args records call) ↔ Whole record
  rounds : Whole record → ∃ values : List String,
    values.length = elementCount record ∧
      (∀ target, record.get? (Numeral.render target) = values[target]?) ∧
      ∀ start, ∃ place < values.length, Rounds key args records values start place

section

variable {key : String} {args : Nat → List String} {records : Records} {record : Record}
  (held : records.get? key = some record)

include held

/-- The first call that fails comes after at most as many others as the record has
elements, unless that many calls and one more succeed. -/
theorem succeed_or_stuckFrom :
    (∀ call ≤ elementCount record, Succeeds key args records call) ∨
      ∃ call ≤ elementCount record, (∀ earlier < call, Succeeds key args records earlier) ∧
        StuckFrom key args records call := by
  classical
  by_cases stuck : ∃ call, ¬ Succeeds key args records call
  · have fails := Nat.find_spec stuck
    have succeed : ∀ earlier < Nat.find stuck, Succeeds key args records earlier :=
      fun earlier before => Classical.not_not.mp (Nat.find_min stuck before)
    by_cases within : Nat.find stuck ≤ elementCount record
    · exact .inr ⟨_, within, succeed, stuckFrom_of_not_succeeds held fails⟩
    · exact .inl fun call below => succeed call (by omega)
  · exact .inl fun call _ => Classical.not_not.mp fun fails => stuck ⟨call, fails⟩

variable (few : record.size < Numeral.wordBound) (whole : Whole record)

include few whole

theorem Whole.succeeds (call : Nat) : Succeeds key args records call := by
  obtain ⟨index, below, stands⟩ := whole.stands
  obtain ⟨element, _, answered⟩ := whole.endingOf_eq args held few below stands call
  exact ⟨element, answered⟩

/-- From any call on, the values of a whole record come round. -/
theorem Whole.rounds {values : List String} (number : values.length = elementCount record)
    (valued : ∀ target, record.get? (Numeral.render target) = values[target]?)
    (start : Nat) : ∃ place < values.length, Rounds key args records values start place := by
  obtain ⟨index, below, stands⟩ := whole.stands
  have placed := whole.placedAfter args held few below stands
  have answered := whole.endingOf_eq args held few below stands
  rw [← number] at below placed answered
  refine ⟨(index + start) % values.length, Nat.mod_lt _ (Nat.zero_lt_of_lt below),
    (placed start).standsAfter, ?_, ?_⟩
  · apply List.ext_getElem
    · simp
    · intro step within _
      obtain ⟨element, found, ended⟩ := answered (start + step)
      have same : (step + (index + start) % values.length) % values.length =
          (index + (start + step)) % values.length := by
        rw [Nat.add_mod_mod]
        congr 1
        omega
      rw [valued, ← same] at found
      obtain ⟨_, value⟩ := List.getElem?_eq_some_iff.mp found
      rw [List.getElem_map, List.getElem_map, List.getElem_range, List.getElem_rotate, value]
      exact ended
  · have back := (placed (start + values.length)).standsAfter
    rw [← Nat.add_assoc, Nat.add_mod_right] at back
    exact back

end

/-- **What becomes of any record.** Advanced again and again, a record either succeeds for
ever or fails after at most as many successes as it has element fields, and from then on
fails in the same way and does not change. It succeeds for ever exactly if it is whole, and
then as many calls in a row as it has elements answer each of them once, in order, and lead
back to where the record stood. -/
theorem fate_of_record {key : String} {records : Records} {record : Record}
    (held : records.get? key = some record) (few : record.size < Numeral.wordBound)
    (args : Nat → List String) : Fate key args records record where
  settles := by
    rcases succeed_or_stuckFrom held with succeed | stuck
    · exact .inl ((whole_of_succeed held succeed).succeeds held few)
    · exact .inr stuck
  forever_iff :=
    ⟨fun succeed => whole_of_succeed held fun call _ => succeed call,
      fun whole => whole.succeeds held few⟩
  rounds := by
    intro whole
    obtain ⟨values, number, valued⟩ := whole.exists_values
    exact ⟨values, number, valued, whole.rounds held few number valued⟩

/-- Two lamps of which the second is not where an index leads to. -/
def crooked : Record where
  entries := [("current", "+05"), ("5", "red"), ("0", "green"), ("wire", "blue")]
  distinct := by decide

theorem fate_of_record_crooked :
    (Table.empty.insert "lamps" crooked).get? "lamps" = some crooked ∧
      crooked.size < Numeral.wordBound ∧
      Fate "lamps" (fun _ => []) (Table.empty.insert "lamps" crooked) crooked ∧
      elementCount crooked = 2 ∧
      Succeeds "lamps" (fun _ => []) (Table.empty.insert "lamps" crooked) 0 ∧
      Succeeds "lamps" (fun _ => []) (Table.empty.insert "lamps" crooked) 1 ∧
      StuckFrom "lamps" (fun _ => []) (Table.empty.insert "lamps" crooked) 2 := by
  have held : (Table.empty.insert "lamps" crooked).get? "lamps" = some crooked := by
    rw [Table.get?_insert, if_pos rfl]
  have few : crooked.size < Numeral.wordBound := by decide +kernel
  have first : Succeeds "lamps" (fun _ => []) (Table.empty.insert "lamps" crooked) 0 :=
    ⟨"red", by decide +kernel⟩
  have second : Succeeds "lamps" (fun _ => []) (Table.empty.insert "lamps" crooked) 1 :=
    ⟨"green", by decide +kernel⟩
  have fails : ¬ Succeeds "lamps" (fun _ => []) (Table.empty.insert "lamps" crooked) 2 := by
    rintro ⟨element, answered⟩
    have ended : endingOf "lamps" (fun _ => []) (Table.empty.insert "lamps" crooked) 2 =
        .returned (.error (.script "cycle lamps has no element 1")) := by decide +kernel
    rw [ended] at answered
    cases answered
  exact ⟨held, few, fate_of_record held few _, by decide +kernel, first, second,
    stuckFrom_of_not_succeeds held fails⟩

end Cycle

end Carousel
