/-
# Decimal numerals of bounded numbers

Numbers are written in decimal without leading zeros. Reading is more generous:
one leading plus sign is allowed, and so are leading zeros. A numeral is read
from the left, and the first character at which it fails decides which flaw is
reported, so `99999999999999999999x` is too large rather than malformed.
-/

namespace Carousel

namespace Numeral

/-- Why a text is not the numeral of a number below the bound. -/
inductive Flaw
  | empty
  | invalidDigit
  | tooLarge
  deriving DecidableEq

/-- The wording of a flaw. -/
def Flaw.message : Flaw → String
  | .empty => "cannot parse integer from empty string"
  | .invalidDigit => "invalid digit found in string"
  | .tooLarge => "number too large to fit in target type"

/-- The canonical decimal of a number. -/
def render (number : Nat) : String :=
  toString number

/-- The number that an ASCII digit stands for. -/
def digitValue (digit : Char) : Nat :=
  digit.toNat - '0'.toNat

/-- Read digits after a text whose value is `value`. The value must stay below
`bound` after each digit. -/
def scan (bound : Nat) : Nat → List Char → Except Flaw Nat
  | value, [] => .ok value
  | value, digit :: rest =>
    if digit.isDigit then
      let longer := 10 * value + digitValue digit
      if longer < bound then scan bound longer rest else .error .tooLarge
    else .error .invalidDigit

/-- Read digits of which there must be at least one. -/
def scanSome (bound : Nat) : List Char → Except Flaw Nat
  | [] => .error .invalidDigit
  | digits => scan bound 0 digits

/-- Read the numeral of a number below `bound`. Only the empty text counts as
empty: a sign without digits is an invalid digit. -/
def read (bound : Nat) : List Char → Except Flaw Nat
  | [] => .error .empty
  | '+' :: digits => scanSome bound digits
  | digits => scanSome bound digits

/-- Read a text as the numeral of a number below `bound`. -/
def parse (bound : Nat) (text : String) : Except Flaw Nat :=
  read bound text.toList

/-- One more than the largest 64-bit number. -/
def wordBound : Nat := UInt64.size

/-- One more than the largest 32-bit number. -/
def halfWordBound : Nat := UInt32.size

end Numeral

end Carousel
