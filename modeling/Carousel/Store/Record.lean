/-
# Records and native scripts

A record is a table of named text fields, and a store maps keys to records. A
native script is the counterpart of a script body: it runs on all records of
the store at once, keeps what it wrote however it ends, and may panic.
-/

import Carousel.Ending
import Carousel.Failure
import Carousel.Script.Basic
import Carousel.Table

namespace Carousel

/-- Fields by name. -/
abbrev Record := Table String String

/-- Records by key. -/
abbrev Records := Table String Record

/-- A script in the form in which the in-memory store runs it, on the records
with a list of keys and a list of arguments. -/
abbrev NativeScript :=
  Records → (keys args : List String) →
    Ending (Except Failure Scalar) × Records

end Carousel
