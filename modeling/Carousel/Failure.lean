/-
# Failures of a store

What a store reports when it does not answer a request. Nothing in this library
retries a failure except one: a script that is unknown under its digest is
registered again.
-/

import Carousel.Span

namespace Carousel

/-- Why a store did not answer. -/
inductive Failure
  | unavailable (reason : String)
  | timeout (elapsed : Span)
  | noScript (digest : String)
  | script (message : String)
  deriving DecidableEq

/-- The wording of a failure. -/
def Failure.message : Failure → String
  | .unavailable reason => "store unavailable: " ++ reason
  | .timeout elapsed => "store request timed out after " ++ elapsed.text
  | .noScript digest => "no script registered under digest " ++ digest
  | .script message => "script failed: " ++ message

end Carousel
