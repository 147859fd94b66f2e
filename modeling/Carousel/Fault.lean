/-
# Faults

Every way in which an operation of the library can fail. A failure of the store
is passed on unchanged and in its own wording.
-/

import Carousel.Failure
import Carousel.Script.Basic
import Carousel.Script.Files

namespace Carousel

/-- Why an operation failed. -/
inductive Fault
  | lockPoisoned
  | store (failure : Failure)
  | unexpectedResult (key : String) (found : Scalar)
  | emptyCycle (key : String)
  | scriptNotFound (name : String)
  | scriptLoad (name path : String) (cause : FileFlaw)
  deriving DecidableEq

/-- The wording of a fault. -/
def Fault.message : Fault → String
  | .lockPoisoned => "lock poisoned"
  | .store failure => failure.message
  | .unexpectedResult key found =>
    "unexpected script result for `" ++ key ++ "`: expected a string, got " ++
      found.describe
  | .emptyCycle key => "cycle `" ++ key ++ "` needs at least one element"
  | .scriptNotFound name =>
    "script `" ++ name ++ "` is not bundled and has no fallback path"
  | .scriptLoad name path cause =>
    "failed to read script `" ++ name ++ "` from " ++ path ++ ": " ++
      cause.message

end Carousel
