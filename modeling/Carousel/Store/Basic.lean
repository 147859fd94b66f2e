/-
# The in-memory store

The store keeps records, and runs scripts of whose bodies it has a native
counterpart. A body must be loaded before it can be run by its digest, and
flushing unloads all bodies while their counterparts stay bound. During an
outage every request fails and changes nothing. Binding, flushing and switching
the outage work at any time.

A script runs alone on all records. One that fails or panics leaves the records
as it last wrote them, and the store serves the next request as ever.
-/

import Carousel.Cycle.Advance
import Carousel.Digest
import Carousel.Program

namespace Carousel

/-- An in-memory store. Bodies are known by their digests. -/
structure Store where
  records : Records
  natives : Table String NativeScript
  loaded : List String
  outage : Bool

namespace Store

/-- An empty store that knows the bundled script. -/
def new : Store where
  records := .empty
  natives := Table.empty.insert (Digest.ofBody Script.bundledBody) Cycle.advance
  loaded := []
  outage := false

/-- What can be asked of a store. -/
inductive Request
  | has (key : String)
  | replace (key : String) (fields : List (String × String))
  | delete (key : String)
  | read (key : String)
  | load (body : String)
  | eval (digest : String) (keys args : List String)
  | bind (body : String) (native : NativeScript)
  | flush
  | setOutage (on : Bool)

/-- What each request is answered with. -/
abbrev Request.Answer : Request → Type
  | .has _ => Except Failure Bool
  | .replace _ _ => Except Failure Unit
  | .delete _ => Except Failure Unit
  | .read _ => Except Failure (Option Record)
  | .load _ => Except Failure String
  | .eval _ _ _ => Except Failure Scalar
  | .bind _ _ => Unit
  | .flush => Unit
  | .setOutage _ => Unit

/-- The requests of a store as an interface. -/
abbrev interface : Interface where
  Query := Request
  Answer := Request.Answer

/-- The failure of every request during an outage. -/
def outageFailure : Failure :=
  .unavailable "store marked unavailable"

/-- Whether a record exists. -/
def has (store : Store) (key : String) : Except Failure Bool :=
  if store.outage then .error outageFailure
  else .ok (store.records.contains key)

/-- A snapshot of a record. -/
def read (store : Store) (key : String) : Except Failure (Option Record) :=
  if store.outage then .error outageFailure else .ok (store.records.get? key)

/-- Put a whole record in place of what is under a key. A record without fields
does not exist. -/
def replace (store : Store) (key : String) (fields : List (String × String)) :
    Except Failure Unit × Store :=
  if store.outage then (.error outageFailure, store)
  else
    let record : Record := .ofList fields
    let records :=
      if record.isEmpty then store.records.erase key
      else store.records.insert key record
    (.ok (), { store with records })

/-- Remove a record. It need not exist. -/
def delete (store : Store) (key : String) : Except Failure Unit × Store :=
  if store.outage then (.error outageFailure, store)
  else (.ok (), { store with records := store.records.erase key })

/-- Make a body available under its digest. Its native counterpart must be
bound. -/
def load (store : Store) (body : String) : Except Failure String × Store :=
  if store.outage then (.error outageFailure, store)
  else
    let digest := Digest.ofBody body
    if store.natives.contains digest then
      (.ok digest, { store with loaded := store.loaded.insert digest })
    else
      (.error (.script
        ("no native implementation bound for script " ++ digest)), store)

/-- The native script that runs under a digest: one that is bound, and whose
body is loaded. -/
def runnable (store : Store) (digest : String) : Option NativeScript :=
  if store.loaded.contains digest then store.natives.get? digest else none

/-- Run the body that is loaded under a digest. -/
def eval (store : Store) (digest : String) (keys args : List String) :
    Ending (Except Failure Scalar) × Store :=
  if store.outage then (.returned (.error outageFailure), store)
  else
    match store.runnable digest with
    | none => (.returned (.error (.noScript digest)), store)
    | some native =>
      let (ending, records) := native store.records keys args
      (ending, { store with records })

/-- Bind a native counterpart to a body, in place of an earlier one. -/
def bind (store : Store) (body : String) (native : NativeScript) : Store :=
  { store with natives := store.natives.insert (Digest.ofBody body) native }

/-- Unload all bodies. -/
def flush (store : Store) : Store :=
  { store with loaded := [] }

/-- Start or end an outage. -/
def setOutage (store : Store) (on : Bool) : Store :=
  { store with outage := on }

/-- Serve one request. Only a script can panic. -/
def serve : Server interface Store
  | .has key, store => (.returned (store.has key), store)
  | .replace key fields, store =>
    let (answer, after) := store.replace key fields
    (.returned answer, after)
  | .delete key, store =>
    let (answer, after) := store.delete key
    (.returned answer, after)
  | .read key, store => (.returned (store.read key), store)
  | .load body, store =>
    let (answer, after) := store.load body
    (.returned answer, after)
  | .eval digest keys args, store => store.eval digest keys args
  | .bind body native, store => (.returned (), store.bind body native)
  | .flush, store => (.returned (), store.flush)
  | .setOutage on, store => (.returned (), store.setOutage on)

end Store

end Carousel
