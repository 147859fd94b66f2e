/-
# Advancing a cycle record

A cycle is one record. The field `current` holds the index of the element that
the next advance answers, and the fields `0` to `n - 1` hold the elements. The
native script here answers the current element and moves the index on, back to
zero after the last. Elements are counted by looking at the names of the
fields, so a record written by someone else is read as far as it makes sense.
-/

import Carousel.Numeral
import Carousel.Store.Record

namespace Carousel

namespace Cycle

/-- The field with the index of the next element. -/
def currentField : String := "current"

/-- Whether a field holds an element: its name consists of digits. -/
def isElementField (field : String) : Bool :=
  !field.toList.isEmpty && field.toList.all Char.isDigit

/-- The number of elements in a record. -/
def elementCount (record : Record) : Nat :=
  (record.keys.filter isElementField).length

/-- The index of the next element, if the record has a readable one. -/
def currentIndex (record : Record) : Option Nat :=
  (record.get? currentField).bind fun text =>
    (Numeral.parse Numeral.wordBound text).toOption

/-- The remainder of a division. Dividing by zero panics. -/
def remainder (dividend divisor : Nat) : Ending Nat :=
  if divisor = 0 then
    .panicked "attempt to calculate the remainder with a divisor of zero"
  else .returned (dividend % divisor)

/-- The element at the index of a record, and the record with its index moved
on. -/
def advanceRecord (key : String) (record : Record) :
    Ending (Except Failure (String × Record)) :=
  match currentIndex record with
  | none =>
    .returned (.error (.script ("cycle " ++ key ++ " has a corrupt current index")))
  | some index =>
    match record.get? (Numeral.render index) with
    | none =>
      .returned (.error (.script
        ("cycle " ++ key ++ " has no element " ++ Numeral.render index)))
    | some element =>
      if Numeral.wordBound ≤ index + 1 then
        .returned (.error (.script
          ("cycle " ++ key ++ " index " ++ Numeral.render index ++
            " cannot advance")))
      else
        (remainder (index + 1) (elementCount record)).map fun next =>
          .ok (element, record.insert currentField (Numeral.render next))

/-- The native counterpart of the bundled script. It takes exactly one key, the
cycle's, and no notice of the arguments. Records are written only on success. -/
def advance : NativeScript := fun records keys _ =>
  match keys with
  | [key] =>
    match records.get? key with
    | none => (.returned (.ok .nil), records)
    | some record =>
      match advanceRecord key record with
      | .panicked message => (.panicked message, records)
      | .returned (.error failure) => (.returned (.error failure), records)
      | .returned (.ok (element, moved)) =>
        (.returned (.ok (.text element)), records.insert key moved)
  | _ =>
    (.returned (.error (.script
      (Script.bundledName ++ " expects exactly one key, got " ++
        Numeral.render keys.length))), records)

end Cycle

end Carousel
