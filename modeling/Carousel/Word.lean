/-
# Checked arithmetic on 64-bit words

A result that does not fit a word, and a division by zero, is never passed on:
the operation panics.
-/

import Carousel.Ending

namespace Carousel

namespace Word

/-- The sum of two words. -/
def add (first second : UInt64) : Ending UInt64 :=
  if first.toNat + second.toNat < UInt64.size then .returned (first + second)
  else .panicked "attempt to add with overflow"

/-- The product of two words. -/
def mul (first second : UInt64) : Ending UInt64 :=
  if first.toNat * second.toNat < UInt64.size then .returned (first * second)
  else .panicked "attempt to multiply with overflow"

/-- The quotient of two words, rounded down. -/
def div (dividend divisor : UInt64) : Ending UInt64 :=
  if divisor = 0 then .panicked "attempt to divide by zero"
  else .returned (dividend / divisor)

/-- The remainder of two words. -/
def mod (dividend divisor : UInt64) : Ending UInt64 :=
  if divisor = 0 then
    .panicked "attempt to calculate the remainder with a divisor of zero"
  else .returned (dividend % divisor)

/-- The element of a list at a place. -/
def index {α : Type} (items : List α) (place : UInt64) : Ending α :=
  match items[place.toNat]? with
  | some item => .returned item
  | none =>
    .panicked
      ("index out of bounds: the len is " ++ toString items.length ++
        " but the index is " ++ toString place.toNat)

end Word

end Carousel
