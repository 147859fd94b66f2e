/-
# Finite tables

A table holds at most one value for each key. Its entries keep the order in
which their keys first arrived: a new value for a known key takes the place of
the old one. Every operation keeps the keys distinct, so the fact is part of
the type.

A table of a whole list of entries is gathered in one pass from the end of the
list, with a set of the keys that were met. The last value of a key is the one
that holds, and a list without repeated keys is taken over as it is.
-/

import Std.Data.HashSet

namespace Carousel

namespace Entries

variable {κ ν : Type} [DecidableEq κ]

/-- The value listed under `key`. -/
def find (key : κ) : List (κ × ν) → Option ν
  | [] => none
  | (name, value) :: rest => if name = key then some value else find key rest

/-- Change the value under a listed key in its place, or list the key last. -/
def set (key : κ) (value : ν) : List (κ × ν) → List (κ × ν)
  | [] => [(key, value)]
  | (name, old) :: rest =>
    if name = key then (name, value) :: rest
    else (name, old) :: set key value rest

/-- Strike the entry of `key`. -/
def strike (key : κ) (entries : List (κ × ν)) : List (κ × ν) :=
  entries.filter fun entry => entry.1 ≠ key

theorem mem_names_set {name key : κ} {value : ν} {entries : List (κ × ν)} :
    name ∈ (set key value entries).map Prod.fst ↔
      name = key ∨ name ∈ entries.map Prod.fst := by
  induction entries with
  | nil => simp [set]
  | cons entry rest ih =>
    rcases entry with ⟨other, old⟩
    by_cases same : other = key
    · simp [set, same]
    · simp only [set, same, if_false, List.map_cons, List.mem_cons]
      rw [ih]
      exact or_left_comm

theorem nodup_set (key : κ) (value : ν) {entries : List (κ × ν)}
    (distinct : (entries.map Prod.fst).Nodup) :
    ((set key value entries).map Prod.fst).Nodup := by
  induction entries with
  | nil => simp [set]
  | cons entry rest ih =>
    rcases entry with ⟨other, old⟩
    rw [List.map_cons, List.nodup_cons] at distinct
    by_cases same : other = key
    · rw [set, if_pos same, List.map_cons, List.nodup_cons]
      exact distinct
    · simp only [set, same, if_false, List.map_cons, List.nodup_cons]
      refine ⟨fun listed => ?_, ih distinct.2⟩
      rcases mem_names_set.mp listed with equal | listed
      · exact same equal
      · exact distinct.1 listed

theorem nodup_strike (key : κ) {entries : List (κ × ν)}
    (distinct : (entries.map Prod.fst).Nodup) :
    ((strike key entries).map Prod.fst).Nodup :=
  distinct.sublist (List.filter_sublist.map Prod.fst)

theorem find_eq_none_iff {key : κ} {entries : List (κ × ν)} :
    find key entries = none ↔ key ∉ entries.map Prod.fst := by
  induction entries with
  | nil => simp [find]
  | cons entry rest ih =>
    rcases entry with ⟨other, value⟩
    by_cases same : other = key
    · simp [find, same]
    · simp [find, same, ih, Ne.symm same]

section

variable [Hashable κ]

/-- Put entries in front of `kept` one after the other, except those whose key
is in `seen`. -/
def gather (seen : Std.HashSet κ) (kept : List (κ × ν)) :
    List (κ × ν) → List (κ × ν)
  | [] => kept
  | entry :: rest =>
    if seen.contains entry.1 then gather seen kept rest
    else gather (seen.insert entry.1) (entry :: kept) rest

/-- The set holds the keys that are kept, and these are distinct. -/
structure Gathered (seen : Std.HashSet κ) (kept : List (κ × ν)) : Prop where
  contains_iff : ∀ name, seen.contains name = true ↔ name ∈ kept.map Prod.fst
  distinct : (kept.map Prod.fst).Nodup

theorem Gathered.empty : Gathered (∅ : Std.HashSet κ) ([] : List (κ × ν)) where
  contains_iff := by simp
  distinct := List.nodup_nil

theorem Gathered.insert {seen : Std.HashSet κ} {kept : List (κ × ν)}
    (before : Gathered seen kept) {entry : κ × ν}
    (fresh : ¬ seen.contains entry.1 = true) :
    Gathered (seen.insert entry.1) (entry :: kept) where
  contains_iff := by
    intro name
    rw [Std.HashSet.contains_insert, Bool.or_eq_true, beq_iff_eq, List.map_cons,
      List.mem_cons, before.contains_iff, eq_comm]
  distinct := by
    rw [List.map_cons, List.nodup_cons]
    exact ⟨fun listed => fresh ((before.contains_iff _).mpr listed),
      before.distinct⟩

theorem nodup_gather {seen : Std.HashSet κ} {kept : List (κ × ν)}
    (before : Gathered seen kept) (entries : List (κ × ν)) :
    ((gather seen kept entries).map Prod.fst).Nodup := by
  induction entries generalizing seen kept with
  | nil => exact before.distinct
  | cons entry rest ih =>
    rw [gather]
    split
    · exact ih before
    · rename_i fresh
      exact ih (before.insert fresh)

theorem find_gather {seen : Std.HashSet κ} {kept : List (κ × ν)}
    (before : Gathered seen kept) (key : κ) (entries : List (κ × ν)) :
    find key (gather seen kept entries) =
      (find key kept).or (find key entries) := by
  induction entries generalizing seen kept with
  | nil => simp [gather, find]
  | cons entry rest ih =>
    rcases entry with ⟨other, value⟩
    rw [gather]
    split
    · rename_i known
      rw [ih before]
      by_cases same : other = key
      · subst same
        have listed := (before.contains_iff _).mp known
        cases found : find other kept with
        | none => exact absurd listed (find_eq_none_iff.mp found)
        | some value => rfl
      · rw [find, if_neg same]
    · rename_i fresh
      rw [ih (before.insert fresh)]
      by_cases same : other = key
      · subst same
        have missing : find other kept = none :=
          find_eq_none_iff.mpr fun listed =>
            fresh ((before.contains_iff _).mpr listed)
        simp [find, missing]
      · simp [find, same]

theorem gather_of_nodup {seen : Std.HashSet κ} {kept : List (κ × ν)}
    (before : Gathered seen kept) (entries : List (κ × ν))
    (fresh : ∀ name ∈ entries.map Prod.fst, name ∉ kept.map Prod.fst)
    (distinct : (entries.map Prod.fst).Nodup) :
    gather seen kept entries = entries.reverse ++ kept := by
  induction entries generalizing seen kept with
  | nil => rfl
  | cons entry rest ih =>
    rw [List.map_cons, List.nodup_cons] at distinct
    have missing : ¬ seen.contains entry.1 = true := fun known =>
      fresh entry.1 (by simp) ((before.contains_iff _).mp known)
    rw [gather, if_neg missing, ih (before.insert missing) _ distinct.2]
    · simp
    · intro name listed
      rw [List.map_cons, List.mem_cons]
      rintro (equal | known)
      · exact distinct.1 (equal ▸ listed)
      · exact fresh name (by simp [listed]) known

end

end Entries

/-- A finite map from keys to values, in order of arrival of its keys. -/
structure Table (κ ν : Type) where
  entries : List (κ × ν)
  distinct : (entries.map Prod.fst).Nodup

namespace Table

variable {κ ν : Type}

@[ext]
theorem ext {first second : Table κ ν} (same : first.entries = second.entries) :
    first = second := by
  cases first
  cases second
  cases same
  rfl

variable [DecidableEq κ]

/-- The table without entries. -/
def empty : Table κ ν where
  entries := []
  distinct := List.nodup_nil

instance : Inhabited (Table κ ν) := ⟨empty⟩

/-- The keys, in order of arrival. -/
def keys (table : Table κ ν) : List κ :=
  table.entries.map Prod.fst

/-- The number of keys. -/
def size (table : Table κ ν) : Nat :=
  table.entries.length

/-- No key has a value. -/
def isEmpty (table : Table κ ν) : Bool :=
  table.entries.isEmpty

/-- The value under `key`, if it has one. -/
def get? (table : Table κ ν) (key : κ) : Option ν :=
  Entries.find key table.entries

/-- Whether `key` has a value. -/
def contains (table : Table κ ν) (key : κ) : Bool :=
  (table.get? key).isSome

/-- The table in which `key` has the value `value` and all else is as before. -/
def insert (table : Table κ ν) (key : κ) (value : ν) : Table κ ν where
  entries := Entries.set key value table.entries
  distinct := Entries.nodup_set key value table.distinct

/-- The table in which `key` has no value and all else is as before. -/
def erase (table : Table κ ν) (key : κ) : Table κ ν where
  entries := Entries.strike key table.entries
  distinct := Entries.nodup_strike key table.distinct

/-- The table of a list of entries. Of two values for one key the later one
holds, at its place. -/
def ofList [Hashable κ] (entries : List (κ × ν)) : Table κ ν where
  entries := Entries.gather ∅ [] entries.reverse
  distinct := Entries.nodup_gather .empty entries.reverse

instance [DecidableEq ν] : DecidableEq (Table κ ν) := fun first second =>
  decidable_of_iff (first.entries = second.entries)
    ⟨ext, fun same => same ▸ rfl⟩

@[simp]
theorem get?_empty (key : κ) : (empty : Table κ ν).get? key = none :=
  rfl

@[simp]
theorem get?_insert (table : Table κ ν) (key : κ) (value : ν) (name : κ) :
    (table.insert key value).get? name =
      if key = name then some value else table.get? name := by
  simp only [get?, insert]
  induction table.entries with
  | nil => simp [Entries.set, Entries.find]
  | cons entry rest ih =>
    rcases entry with ⟨other, old⟩
    by_cases same : other = key
    · subst same
      by_cases sought : other = name <;> simp [Entries.set, Entries.find, sought]
    · by_cases sought : other = name
      · subst sought
        simp [Entries.set, Entries.find, same, Ne.symm same]
      · simp [Entries.set, Entries.find, same, sought, ih]

@[simp]
theorem get?_erase (table : Table κ ν) (key name : κ) :
    (table.erase key).get? name =
      if key = name then none else table.get? name := by
  simp only [get?, erase, Entries.strike]
  induction table.entries with
  | nil => simp [Entries.find]
  | cons entry rest ih =>
    rcases entry with ⟨other, old⟩
    by_cases struck : other = key
    · subst struck
      by_cases sought : other = name <;> simp_all [Entries.find]
    · by_cases sought : other = name
      · subst sought
        simp [Entries.find, struck, Ne.symm struck]
      · simpa [Entries.find, struck, sought] using ih

/-- The value under a key is the last one that was listed for it. -/
theorem get?_ofList [Hashable κ] (entries : List (κ × ν)) (key : κ) :
    (ofList entries).get? key = Entries.find key entries.reverse := by
  rw [get?, ofList, Entries.find_gather .empty, Entries.find, Option.none_or]

/-- Entries with distinct keys are taken over as they are. -/
theorem entries_ofList [Hashable κ] {entries : List (κ × ν)}
    (distinct : (entries.map Prod.fst).Nodup) :
    (ofList entries).entries = entries := by
  have backwards : (entries.reverse.map Prod.fst).Nodup := by
    rw [List.map_reverse]
    exact List.pairwise_reverse.mpr (distinct.imp Ne.symm)
  have gathered := Entries.gather_of_nodup .empty entries.reverse (by simp)
    backwards
  show Entries.gather ∅ [] entries.reverse = entries
  rw [gathered, List.reverse_reverse, List.append_nil]

/-- The keys after an insertion: the same ones if the key was known, else the
new one comes last. -/
theorem mem_keys_insert {table : Table κ ν} {key name : κ} {value : ν} :
    name ∈ (table.insert key value).keys ↔ name = key ∨ name ∈ table.keys :=
  Entries.mem_names_set

/-- The keys after a removal: all but the one removed. -/
theorem mem_keys_erase {table : Table κ ν} {key name : κ} :
    name ∈ (table.erase key).keys ↔ name ≠ key ∧ name ∈ table.keys := by
  simp only [keys, erase, Entries.strike, List.mem_map, List.mem_filter, decide_eq_true_eq]
  constructor
  · rintro ⟨entry, ⟨listed, other⟩, rfl⟩
    exact ⟨other, entry, listed, rfl⟩
  · rintro ⟨other, entry, listed, rfl⟩
    exact ⟨entry, ⟨listed, other⟩, rfl⟩

end Table

end Carousel
