/-
# What the history of a store tells about it

The history of a store lists every request that was served, with its answer. It tells
which scripts can be run at the moment: those whose digest a load has given out since
the scripts were last unloaded, and it is the native counterpart that was last bound to
the digest that is run. Binding another one to a digest that is loaded takes effect at
once, and binding alone never makes a script known.

Whatever was asked of a store, in whatever order, no key leads to a record without
fields, so that a record is there exactly if it can be seen to have fields. Native
scripts may fail or panic, but must keep to this themselves.
-/

import Carousel.Proofs.Requests
import Carousel.Proofs.Since
import Carousel.Store.Samples

namespace Carousel

theorem Table.isEmpty_insert {κ ν : Type} [DecidableEq κ] (table : Table κ ν) (key : κ)
    (value : ν) : (table.insert key value).isEmpty = false := by
  rcases table with ⟨entries, distinct⟩
  cases entries with
  | nil => rfl
  | cons entry rest =>
    simp only [isEmpty, insert, Entries.set]
    split <;> rfl

/-- No key leads to a record without fields. -/
def Records.Filled (records : Records) : Prop :=
  ∀ key record, records.get? key = some record → record.isEmpty = false

/-- A native script leaves no record without fields behind. -/
def NativeScript.Tidy (native : NativeScript) : Prop :=
  ∀ records keys args, Records.Filled records →
    Records.Filled (native records keys args).2

namespace Records

variable {records : Records}

theorem Filled.insert (filled : Records.Filled records) (key : String) {record : Record}
    (some : record.isEmpty = false) : Records.Filled (Table.insert records key record) := by
  intro other held found
  rw [Table.get?_insert] at found
  split at found
  · cases found
    exact some
  · exact filled other held found

theorem Filled.erase (filled : Records.Filled records) (key : String) :
    Records.Filled (Table.erase records key) := by
  intro other held found
  rw [Table.get?_erase] at found
  split at found
  · cases found
  · exact filled other held found

end Records

/-- A record that was advanced has a place. -/
theorem Cycle.isEmpty_of_advanceRecord {key element : String} {record moved : Record}
    (advanced : Cycle.advanceRecord key record = .returned (.ok (element, moved))) :
    moved.isEmpty = false := by
  rw [Cycle.advanceRecord] at advanced
  split at advanced
  · cases advanced
  · split at advanced
    · cases advanced
    · split at advanced
      · cases advanced
      · rw [Cycle.remainder] at advanced
        split at advanced <;> cases advanced
        exact Table.isEmpty_insert _ _ _

/-- The native script of cycles leaves no record without fields behind. -/
theorem Cycle.tidy_advance : NativeScript.Tidy Cycle.advance := by
  intro records keys args filled
  match keys with
  | [] | _ :: _ :: _ => exact filled
  | [key] =>
    rw [Cycle.advance]
    cases held : records.get? key with
    | none => exact filled
    | some record =>
      dsimp only
      cases advanced : Cycle.advanceRecord key record with
      | panicked message => exact filled
      | returned answer =>
        cases answer with
        | error failure => exact filled
        | ok pair =>
          exact filled.insert key (Cycle.isEmpty_of_advanceRecord advanced)

namespace Store

/-- A request that was served, and how that ended. -/
structure Exchange where
  request : Request
  ending : Ending request.Answer

/-- The digest that a load has given out. -/
def Exchange.given? : Exchange → Option String
  | ⟨.load _, .returned (.ok digest)⟩ => some digest
  | _ => none

/-- The digest to which a native script was bound, and the script. -/
def Exchange.bound? : Exchange → Option (String × NativeScript)
  | ⟨.bind body native, _⟩ => some (Digest.ofBody body, native)
  | _ => none

/-- A load has given out the digest, and nothing was unloaded since. -/
def Registered (log : List Exchange) (digest : String) : Prop :=
  Since (fun exchange => exchange.given? = some digest)
    (fun exchange => exchange.request = .flush) log

/-- The native script was bound to the digest, and no other one since. -/
def LastBound (log : List Exchange) (digest : String) (native : NativeScript) : Prop :=
  Since (fun exchange => exchange.bound? = some (digest, native))
    (fun exchange => ∃ other, exchange.bound? = some (digest, other)) log

/-- Serve one more request. -/
def exchange (past : List Exchange × Store) (request : Request) : List Exchange × Store :=
  (past.1 ++ [⟨request, (serve request past.2).1⟩], (serve request past.2).2)

/-- The history of a new store that is asked some requests, and the store after it. A
new store has had the bundled script's native counterpart bound to it. -/
def history (requests : List Request) : List Exchange × Store :=
  requests.foldl exchange ([⟨.bind Script.bundledBody Cycle.advance, .returned ()⟩], new)

theorem registered_append_singleton {log : List Exchange} {last : Exchange}
    {digest : String} :
    Registered (log ++ [last]) digest ↔
      last.given? = some digest ∨ Registered log digest ∧ last.request ≠ .flush :=
  since_append_singleton

theorem lastBound_append_singleton {log : List Exchange} {last : Exchange}
    {digest : String} {native : NativeScript} :
    LastBound (log ++ [last]) digest native ↔
      last.bound? = some (digest, native) ∨ LastBound log digest native ∧
        ¬ ∃ other, last.bound? = some (digest, other) :=
  since_append_singleton

theorem history_append_singleton (requests : List Request) (request : Request) :
    history (requests ++ [request]) = exchange (history requests) request := by
  rw [history, List.foldl_append]
  rfl

/-! ## What one request changes -/

/-- After a request those digests are loaded that it has given out, and those that were
loaded before, unless it unloads them. -/
theorem mem_loaded_serve_iff {request : Request} {store : Store} {digest : String} :
    digest ∈ (serve request store).2.loaded ↔
      Exchange.given? ⟨request, (serve request store).1⟩ = some digest ∨
        digest ∈ store.loaded ∧ request ≠ .flush := by
  cases request with
  | load body =>
    simp only [serve, load]
    split
    · simp [Exchange.given?]
    · split
      · simp [Exchange.given?, List.mem_insert_iff, eq_comm]
      · simp [Exchange.given?]
  | flush => simp [serve, flush, Exchange.given?]
  | replace key fields =>
    simp only [serve, replace]
    split <;> simp [Exchange.given?]
  | delete key =>
    simp only [serve, delete]
    split <;> simp [Exchange.given?]
  | eval digest keys args =>
    simp only [serve, eval]
    split
    · simp [Exchange.given?]
    · split <;> simp [Exchange.given?]
  | has key | read key | bind body native | setOutage on =>
    simp [serve, bind, setOutage, Exchange.given?]

/-- After a request a native script is bound to a digest if the request has bound it, or
if it was bound before and the request has not bound another one. -/
theorem get?_natives_serve_iff {request : Request} {store : Store} {digest : String}
    {native : NativeScript} (ending : Ending request.Answer) :
    (serve request store).2.natives.get? digest = some native ↔
      Exchange.bound? ⟨request, ending⟩ = some (digest, native) ∨
        store.natives.get? digest = some native ∧
          ¬ ∃ other, Exchange.bound? ⟨request, ending⟩ = some (digest, other) := by
  rw [natives_serve]
  cases request with
  | bind body made =>
    rw [Table.get?_insert]
    by_cases same : Digest.ofBody body = digest <;> simp [Exchange.bound?, same]
  | _ => simp [Exchange.bound?]

/-- A request leaves no record without fields if the native scripts that are bound do
not. -/
theorem filled_serve {store : Store} (filled : Records.Filled store.records)
    (tidy : ∀ digest native, store.natives.get? digest = some native → native.Tidy)
    (request : Request) : Records.Filled (serve request store).2.records := by
  cases request with
  | replace key fields =>
    simp only [serve, replace]
    split
    · exact filled
    · dsimp only
      split
      · exact filled.erase key
      · rename_i some
        exact filled.insert key (Bool.eq_false_iff.mpr some)
  | delete key =>
    simp only [serve, delete]
    split
    · exact filled
    · exact filled.erase key
  | load body =>
    simp only [serve, load]
    split
    · exact filled
    · split <;> exact filled
  | eval digest keys args =>
    simp only [serve, eval]
    split
    · exact filled
    · split
      · exact filled
      · rename_i native runnable
        rw [runnable_eq_some_iff] at runnable
        exact tidy digest native runnable.2 store.records keys args filled
  | has key | read key | bind body native | flush | setOutage on => exact filled

/-! ## What every history tells -/

/-- The store is as its history tells, and holds nothing that a tidy one would not. -/
structure Told (log : List Exchange) (store : Store) : Prop where
  loaded_iff : ∀ digest, digest ∈ store.loaded ↔ Registered log digest
  bound_iff : ∀ digest native,
    store.natives.get? digest = some native ↔ LastBound log digest native
  bound : ∀ digest ∈ store.loaded, store.natives.contains digest = true
  tidy : ∀ digest native, store.natives.get? digest = some native → native.Tidy
  filled : Records.Filled store.records

theorem Told.exchange {past : List Exchange × Store} (told : Told past.1 past.2)
    {request : Request} (tidy : ∀ body native, request = .bind body native → native.Tidy) :
    Told (exchange past request).1 (exchange past request).2 where
  loaded_iff := by
    intro digest
    rw [Store.exchange, mem_loaded_serve_iff, registered_append_singleton, told.loaded_iff]
  bound_iff := by
    intro digest native
    rw [Store.exchange, get?_natives_serve_iff (serve request past.2).1,
      lastBound_append_singleton, told.bound_iff]
  bound := by
    intro digest listed
    apply contains_natives_serve
    rcases mem_loaded_serve listed with before | known
    · exact told.bound digest before
    · exact known
  tidy := by
    intro digest native found
    rcases (get?_natives_serve_iff (serve request past.2).1).mp found with made | ⟨before, _⟩
    · cases request with
      | bind body other =>
        cases made
        exact tidy body native rfl
      | _ => cases made
    · exact told.tidy digest native before
  filled := filled_serve told.filled told.tidy request

/-- A store to which nothing was bound yet. -/
def blank : Store where
  records := .empty
  natives := .empty
  loaded := []
  outage := false

theorem told_blank : Told [] blank where
  loaded_iff := by
    intro digest
    exact iff_of_false List.not_mem_nil not_since_nil
  bound_iff := by
    intro digest native
    exact iff_of_false nofun not_since_nil
  bound := by
    intro digest listed
    cases listed
  tidy := by
    intro digest native found
    cases found
  filled := by
    intro key record found
    cases found

theorem history_nil :
    history [] = exchange ([], blank) (.bind Script.bundledBody Cycle.advance) :=
  rfl

theorem told_history {requests : List Request}
    (tidy : ∀ body native, .bind body native ∈ requests → native.Tidy) :
    Told (history requests).1 (history requests).2 := by
  induction requests using List.reverseRecOn with
  | nil =>
    rw [history_nil]
    apply Told.exchange told_blank
    intro body native same
    cases same
    exact Cycle.tidy_advance
  | append_singleton requests request ih =>
    rw [history_append_singleton]
    apply Told.exchange
    · apply ih
      intro body native listed
      exact tidy body native (List.mem_append_left _ listed)
    · rintro body native rfl
      exact tidy body native (List.mem_append_right _ List.mem_cons_self)

/-- What can be relied on in a store with a history. -/
structure Reliable (log : List Exchange) (store : Store) : Prop where
  filled : Records.Filled store.records
  present_iff : store.outage = false → ∀ key, ∃ present found,
    store.has key = .ok present ∧ store.read key = .ok found ∧
      (present = true ↔ ∃ record, found = some record ∧ record.isEmpty = false)
  bound : ∀ digest ∈ store.loaded, ∃ native, store.natives.get? digest = some native
  runs : store.outage = false → ∀ digest, Registered log digest →
    ∃ native, LastBound log digest native ∧ store.runnable digest = some native ∧
      ∀ keys args, serve (.eval digest keys args) store =
        ((native store.records keys args).1,
          { store with records := (native store.records keys args).2 })
  unknown : store.outage = false → ∀ digest, ¬ Registered log digest →
    store.runnable digest = none ∧
      ∀ keys args, serve (.eval digest keys args) store =
        (.returned (.error (.noScript digest)), store)

section

variable {log : List Exchange} {store : Store} (told : Told log store)

include told

theorem Told.exists_bound {digest : String} (listed : digest ∈ store.loaded) :
    ∃ native, store.natives.get? digest = some native :=
  Option.isSome_iff_exists.mp (told.bound digest listed)

theorem Told.present_iff (up : store.outage = false) (key : String) :
    ∃ present found, store.has key = .ok present ∧ store.read key = .ok found ∧
      (present = true ↔ ∃ record, found = some record ∧ record.isEmpty = false) := by
  have available : ¬ store.outage = true := by simp [up]
  refine ⟨_, _, if_neg available, if_neg available, ?_⟩
  rw [Table.contains, Option.isSome_iff_exists]
  constructor
  · rintro ⟨record, held⟩
    exact ⟨record, held, told.filled key record held⟩
  · rintro ⟨record, held, _⟩
    exact ⟨record, held⟩

/-- A digest that is registered runs the native script that was last bound to it. -/
theorem Told.runs (up : store.outage = false) {digest : String}
    (registered : Registered log digest) :
    ∃ native, LastBound log digest native ∧ store.runnable digest = some native ∧
      ∀ keys args, serve (.eval digest keys args) store =
        ((native store.records keys args).1,
          { store with records := (native store.records keys args).2 }) := by
  have loaded := (told.loaded_iff digest).mpr registered
  obtain ⟨native, found⟩ := told.exists_bound loaded
  have runnable := runnable_eq_some_iff.mpr ⟨loaded, found⟩
  refine ⟨native, (told.bound_iff digest native).mp found, runnable, ?_⟩
  intro keys args
  simp only [serve, eval, up, runnable, if_neg Bool.false_ne_true]

/-- A digest that is not registered runs nothing. -/
theorem Told.unknown (up : store.outage = false) {digest : String}
    (unregistered : ¬ Registered log digest) :
    store.runnable digest = none ∧
      ∀ keys args, serve (.eval digest keys args) store =
        (.returned (.error (.noScript digest)), store) := by
  have runnable : store.runnable digest = none := by
    rw [Option.eq_none_iff_forall_ne_some]
    intro native found
    exact unregistered ((told.loaded_iff digest).mp (runnable_eq_some_iff.mp found).1)
  refine ⟨runnable, fun keys args => ?_⟩
  simp only [serve, eval, up, runnable, if_neg Bool.false_ne_true]

end

/-- **A store is what its history tells.** Whatever is asked of a new store, with native
scripts that leave no record without fields behind: no key leads to such a record, what
is loaded is bound, and a digest is run exactly if a load has given it out since the
scripts were last unloaded, by the native script that was last bound to it. -/
theorem reliable_history {requests : List Request}
    (tidy : ∀ body native, .bind body native ∈ requests → native.Tidy) :
    Reliable (history requests).1 (history requests).2 := by
  have told := told_history tidy
  exact
    { filled := told.filled
      present_iff := fun up key => told.present_iff up key
      bound := fun _ listed => told.exists_bound listed
      runs := fun up _ registered => told.runs up registered
      unknown := fun up _ unregistered => told.unknown up unregistered }

/-- A native script is bound in place of one that is loaded, runs, and panics after it
has written a record. Then scripts are unloaded, a record is emptied, another one is
written with a repeated field, the script is loaded again, and an outage comes and
goes. -/
def rebound : List Request :=
  [.bind "toll" Samples.count, .load "toll",
    .bind "toll" (Samples.putThen (.panicked "the bell broke")),
    .eval (Digest.ofBody "toll") ["bell"] ["weight", "9"], .flush,
    .replace "bell" [], .replace "rope" [("length", "1"), ("length", "2")],
    .load "toll", .setOutage true, .delete "rope", .setOutage false]

end Store

/-- Setting a field leaves a record with a field. -/
theorem Samples.tidy_put : NativeScript.Tidy Samples.put := by
  intro records keys args filled
  simp only [Samples.put]
  split
  · exact filled.insert _ (Table.isEmpty_insert _ _ _)
  · exact filled

theorem Samples.tidy_putThen (ending : Ending (Except Failure Scalar)) :
    NativeScript.Tidy (Samples.putThen ending) := by
  intro records keys args filled
  rw [Samples.snd_putThen]
  exact Samples.tidy_put records keys args filled

theorem Store.reliable_history_rebound :
    (∀ body native, Store.Request.bind body native ∈ Store.rebound → native.Tidy) ∧
      (Store.history Store.rebound).2.outage = false ∧
      Store.Reliable (Store.history Store.rebound).1 (Store.history Store.rebound).2 := by
  have tidy : ∀ body native, Store.Request.bind body native ∈ Store.rebound →
      native.Tidy := by
    intro body native listed
    simp only [Store.rebound, List.mem_cons, Store.Request.bind.injEq, List.not_mem_nil,
      reduceCtorEq, false_or, or_false] at listed
    rcases listed with ⟨_, rfl⟩ | ⟨_, rfl⟩
    · exact fun _ _ _ filled => filled
    · exact Samples.tidy_putThen _
  exact ⟨tidy, rfl, Store.reliable_history tidy⟩

end Carousel
