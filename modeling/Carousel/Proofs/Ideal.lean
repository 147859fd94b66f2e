/-
# The ideal machine of cycles

The ideal machine keeps a wheel under each name, or nothing, and knows neither
records nor scripts nor digests. A deployment tracks it on a name if the record
under the name is the record of the wheel there, or is missing where there is no
wheel. What is stored under other names, what is loaded, and what executors
remember, is left open.

The central fact is that every command keeps a deployment on the track, and that
a cycle operation on the name answers what the ideal machine answers. A cycle
that has been created or removed once is on the track, whatever was stored under
its name before. So everything that users of cycles see from then on is what the
ideal machine shows them.

Nothing is claimed about a name before it is created or removed, nor about one
that is written to by other means than cycle operations.
-/

import Carousel.Proofs.Sound

namespace Carousel

namespace Wheel

/-- A fresh wheel takes the place of the old one, if it has an element. -/
def create (name : String) (elements : List String) (wheel : Option Wheel) :
    Outcome × Option Wheel :=
  match fresh? elements with
  | none => (.error (.emptyCycle name), wheel)
  | some fresh => (.ok .unit, some fresh)

/-- What a call on the cycle under a name answers, and the wheel that it leaves
there. -/
def call (name : String) : Cycle.Call → Option Wheel → Outcome × Option Wheel
  | .exists?, wheel => (.ok (.flag wheel.isSome), wheel)
  | .create elements, wheel => create name elements wheel
  | .createIfMissing _, some wheel => (.ok .unit, some wheel)
  | .createIfMissing elements, none => create name elements none
  | .next, some wheel => (.ok (.optionalText (some wheel.current)), some wheel.turn)
  | .next, none => (.ok (.optionalText none), none)
  | .remove, _ => (.ok .unit, none)

/-- What a call answers during an outage. Only the lack of an element is noticed
without asking the store. -/
def refusal (name : String) : Cycle.Call → Outcome
  | .create [] => .error (.emptyCycle name)
  | _ => .error (.store Store.outageFailure)

end Wheel

/-- A call that does not create a cycle of `2 ^ 64` elements or more. -/
def Cycle.Call.Small : Cycle.Call → Prop
  | .create elements => elements.length < Numeral.wordBound
  | .createIfMissing elements => elements.length < Numeral.wordBound
  | _ => True

namespace Wheel

theorem small_of_fresh? {elements : List String} {wheel : Wheel}
    (fresh : fresh? elements = some wheel)
    (few : elements.length < Numeral.wordBound) : wheel.Small := by
  rw [Small, (eq_of_fresh? fresh).1]
  exact few

/-- Small calls keep wheels small. -/
theorem small_call {name : String} {call : Cycle.Call} {wheel : Option Wheel}
    (modest : call.Small) (small : ∀ held ∈ wheel, held.Small) :
    ∀ held ∈ (Wheel.call name call wheel).2, held.Small := by
  have created : ∀ elements : List String,
      elements.length < Numeral.wordBound →
        ∀ held ∈ (create name elements wheel).2, held.Small := by
    intro elements few held
    rw [create]
    cases fresh : fresh? elements with
    | none => exact small held
    | some made =>
      intro same
      cases same
      exact small_of_fresh? fresh few
  cases call with
  | exists? => exact small
  | create elements => exact created elements modest
  | createIfMissing elements =>
    cases wheel with
    | none => exact created elements modest
    | some held => exact small
  | next =>
    cases wheel with
    | none => exact small
    | some held =>
      intro turned same
      cases same
      exact small held rfl
  | remove =>
    intro held same
    cases same

end Wheel

/-- Cycles as their users see them: the wheel under each name, if there is one,
and whether the store is out of service. -/
structure Ideal where
  wheels : String → Option Wheel
  outage : Bool

namespace Ideal

/-- Put a wheel, or nothing, under a name. -/
def set (ideal : Ideal) (name : String) (wheel : Option Wheel) : Ideal :=
  { ideal with
    wheels := fun other => if other = name then wheel else ideal.wheels other }

/-- Carry out a call on the cycle under a name. -/
def call (ideal : Ideal) (name : String) (call : Cycle.Call) : Outcome × Ideal :=
  if ideal.outage then (Wheel.refusal name call, ideal)
  else
    let (outcome, wheel) := Wheel.call name call (ideal.wheels name)
    (outcome, ideal.set name wheel)

/-- Carry out a command. Only calls on cycles are answered. -/
def perform (ideal : Ideal) : Command → Option Outcome × Ideal
  | .cycle _ handle call =>
    let (outcome, after) := ideal.call handle.name call
    (some outcome, after)
  | .store (.setOutage on) => (none, { ideal with outage := on })
  | _ => (none, ideal)

/-- Carry out commands one after the other. -/
def performAll : List Command → Ideal → List (Option Outcome) × Ideal
  | [], ideal => ([], ideal)
  | command :: rest, ideal =>
    let (outcome, after) := ideal.perform command
    let (outcomes, final) := performAll rest after
    (outcome :: outcomes, final)

end Ideal

namespace Command

/-- The command is a call on the cycle under the name. -/
def On (name : String) : Command → Prop
  | .cycle _ handle _ => handle.name = name
  | _ => False

/-- The command creates or removes the cycle under the name, whatever is there. -/
def Founds (name : String) : Command → Prop
  | .cycle _ handle (.create _) => handle.name = name
  | .cycle _ handle .remove => handle.name = name
  | _ => False

/-- Commands of users of cycles who keep to the bundled script, and of those who
look after the store. -/
def Modest : Command → Prop
  | .cycle _ handle call => handle.script = .bundled ∧ call.Small
  | .store (.eval _ _ _) => False
  | .store (.bind _ _) => False
  | .store _ => True
  | .execute _ _ _ _ => False
  | .cachedDigest _ _ => True

/-- The command does not write the record under the name past its cycle. -/
def Spares (name : String) : Command → Prop
  | .store (.replace key _) => key ≠ name
  | .store (.delete key) => key ≠ name
  | _ => True

end Command

end Carousel
