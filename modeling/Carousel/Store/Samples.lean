/-
# Sample native scripts

Small native scripts that exercise every way in which a script can end, with
and without having written before: each kind of answer, failures, panics, and
an answer that pretends the script is unknown.
-/

import Carousel.Store.Basic

namespace Carousel

namespace Samples

/-- A script that reads and writes nothing. -/
def constant (ending : Ending (Except Failure Scalar)) : NativeScript :=
  fun records _ _ => (ending, records)

/-- A script that answers a text. -/
def answering (scalar : Scalar) : NativeScript :=
  constant (.returned (.ok scalar))

/-- A script that fails. -/
def failing (failure : Failure) : NativeScript :=
  constant (.returned (.error failure))

/-- The number of records. -/
def count : NativeScript := fun records _ _ =>
  (.returned (.ok (.int records.size)), records)

/-- The keys and the arguments. -/
def echo : NativeScript := fun records keys args =>
  (.returned (.ok (.text
    (String.intercalate "," keys ++ "|" ++ String.intercalate "," args))),
    records)

/-- Set one field of one record, which is made if it is missing, and answer the
value that the field had. -/
def put : NativeScript := fun records keys args =>
  match keys, args with
  | [key], [field, value] =>
    let record := (records.get? key).getD .empty
    let old : Scalar :=
      match record.get? field with
      | some text => .text text
      | none => .nil
    (.returned (.ok old), records.insert key (record.insert field value))
  | _, _ =>
    (.returned (.error (.script "put needs one key and two args")), records)

/-- Do as `put`, and where that succeeds end in another way. -/
def putThen (ending : Ending (Except Failure Scalar)) : NativeScript :=
  fun records keys args =>
    match put records keys args with
    | (.returned (.ok _), after) => (ending, after)
    | failed => failed

/-- However it ends, the script writes what `put` writes. -/
theorem snd_putThen (ending : Ending (Except Failure Scalar)) (records : Records)
    (keys args : List String) :
    (putThen ending records keys args).2 = (put records keys args).2 := by
  rw [putThen]
  split
  · rename_i done
    rw [done]
  · rfl

/-- Remove the records under the keys and answer how many there were. -/
def drop : NativeScript := fun records keys _ =>
  let (dropped, after) := keys.foldl
    (fun (count, rest) key =>
      (if rest.contains key then count + 1 else count, rest.erase key))
    (0, records)
  (.returned (.ok (.int (Int.ofNat dropped))), after)

/-- Note the call in the field `log` of each record under the keys, then fail
as if the script were unknown. -/
def unknownAfterLog : NativeScript := fun records keys _ =>
  let after := keys.foldl
    (fun records key =>
      let record := (records.get? key).getD .empty
      let log := (record.get? "log").getD ""
      records.insert key (record.insert "log" (log ++ "x")))
    records
  (.returned (.error (.noScript "native")), after)

/-- The sample scripts by name. -/
def byName : Table String NativeScript :=
  .ofList
    [("advance", Cycle.advance),
      ("nil", answering .nil),
      ("seven", answering (.int 7)),
      ("int_min", answering (.int Int64.minValue.toInt)),
      ("count", count),
      ("echo", echo),
      ("error", failing (.script "native failed")),
      ("timeout", failing (.timeout (.ofMillis 1500))),
      ("panic", constant (.panicked "native script failed")),
      ("put", put),
      ("put_error",
        putThen (.returned (.error (.script "failed after put")))),
      ("put_panic", putThen (.panicked "panicked after put")),
      ("drop", drop),
      ("no_script", unknownAfterLog)]

end Samples

end Carousel
