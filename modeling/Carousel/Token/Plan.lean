/-
# Planned devices

Devices whose behaviour is written down beforehand, in lists. A list that has
run dry goes on with a standard behaviour: a clock without readings left fails,
sleeps rest undisturbed, and nonces are zero. A clock may also tick on by itself.
-/

import Carousel.Token.Devices

namespace Carousel

/-- The readings of a clock. -/
inductive ClockPlan
  | listed (readings : Array Reading)
  | ticking (start : UInt64)

namespace ClockPlan

/-- What the clock reads after so many readings. -/
def reading : ClockPlan → Nat → Reading
  | .listed readings, count =>
    readings[count]?.getD (.failure "clock exhausted")
  | .ticking start, count => .time (start + .ofNat count)

/-- A number of readings by which any wait is over. A listed clock is exhausted
by then, and a ticking one has ticked. -/
def patience : ClockPlan → Nat
  | .listed readings => readings.size + 1
  | .ticking _ => 2

end ClockPlan

/-- The behaviour of a set of devices. -/
structure DevicePlan where
  clock : ClockPlan
  naps : Array Nap
  nonces : Array Draw
  bedding : Bedding

namespace DevicePlan

/-- The devices that behave as planned. -/
def devices (plan : DevicePlan) : Devices where
  reading := plan.clock.reading
  nap count := plan.naps[count]?.getD .rested
  draw count := plan.nonces[count]?.getD (.nonce 0)
  bedding := plan.bedding

end DevicePlan

end Carousel
