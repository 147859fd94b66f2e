/-
# How a call comes back

A call either hands back a result or panics. A panic unwinds through every
caller up to whoever is watching, so nothing between the two inspects it. What
the call did to the state before it panicked stays done. State is therefore
always returned beside an `Ending`, never inside it.
-/

namespace Carousel

/-- The end of a call: a result, or a panic that unwinds through its callers. -/
inductive Ending (α : Type)
  | returned (result : α)
  | panicked (message : String)
  deriving DecidableEq

namespace Ending

variable {α β : Type}

/-- Continue with the result. A panic passes through unchanged. -/
def bind : Ending α → (α → Ending β) → Ending β
  | .returned result, next => next result
  | .panicked message, _ => .panicked message

/-- Rework the result. A panic passes through unchanged. -/
def map (rework : α → β) : Ending α → Ending β
  | .returned result => .returned (rework result)
  | .panicked message => .panicked message

instance : Monad Ending where
  pure := .returned
  bind := Ending.bind

@[simp]
theorem pure_eq (result : α) : (pure result : Ending α) = .returned result :=
  rfl

@[simp]
theorem returned_bind (result : α) (next : α → Ending β) :
    (Ending.returned result >>= next) = next result :=
  rfl

@[simp]
theorem panicked_bind (message : String) (next : α → Ending β) :
    (Ending.panicked message >>= next) = .panicked message :=
  rfl

end Ending

end Carousel
