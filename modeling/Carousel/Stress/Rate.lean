/-
# Operations per second

The rate is computed in double precision. A time too short to measure counts as
the distance from one to the next larger double, so the rate is always finite.
-/

import Carousel.Span

namespace Carousel

namespace Stress

/-- A number of operations, and the time that they took. -/
structure Rate where
  ops : UInt64
  elapsed : Span
  deriving DecidableEq

namespace Rate

/-- The shortest time that counts. -/
def shortest : Float :=
  Float.scaleB 1 (-52)

/-- The time in seconds. -/
def seconds (rate : Rate) : Float :=
  rate.elapsed.secs.toFloat +
    (UInt64.ofNat rate.elapsed.nanos).toFloat / 1000000000

/-- The number of operations per second. -/
def perSecond (rate : Rate) : Float :=
  let seconds := rate.seconds
  rate.ops.toFloat / if seconds < shortest then shortest else seconds

end Rate

end Stress

end Carousel
