/-
# Shortest decimals of floating-point numbers

The decimal of a finite double is the shortest one that rounds back to it, and
of several shortest ones the nearest. Numbers of a usual size are written out
with a point and at least one digit on either side. Very small and very large
ones are written with one digit before the point and a signed exponent, such as
`1.25e+16` or `5e-324`.

A positive double is `mantissa * 2 ^ exponent`. The decimals that round to it
fill an interval that reaches half way to its two neighbours. Its ends belong to
it when the mantissa is even. On the grid of decimals with a fixed number of
digits only the two points around the double can lie in the interval, so each
grid is decided by two tests in whole numbers.
-/

namespace Carousel

namespace Decimal

/-- A positive double as a whole number of quarters of its last place, with the
interval of the numbers that round to it in the same unit. -/
structure Rounding where
  quarters : Nat
  below : Nat
  above : Nat
  closed : Bool
  exponent : Int

/-- The interval of the double with the given exponent and fraction bits. -/
def Rounding.ofFields (exponentField fraction : Nat) : Rounding :=
  let mantissa := if exponentField = 0 then fraction else (1 <<< 52) + fraction
  let exponent : Int := (max exponentField 1 : Nat) - 1075
  let narrow := fraction = 0 ∧ 1 < exponentField
  { quarters := 4 * mantissa
    below := 4 * mantissa - if narrow then 1 else 2
    above := 4 * mantissa + 2
    closed := mantissa % 2 = 0
    exponent := exponent - 2 }

/-- A quotient of whole numbers. -/
structure Quotient where
  top : Nat
  bottom : Nat

/-- A number scaled by powers of two and ten. -/
def scale (number : Nat) (two ten : Int) : Quotient where
  top := number * Nat.pow 2 two.toNat * Nat.pow 10 ten.toNat
  bottom := Nat.pow 2 (-two).toNat * Nat.pow 10 (-ten).toNat

namespace Rounding

variable (rounding : Rounding)

/-- Whether `point * 10 ^ place` rounds to the double. -/
def holds (point : Nat) (place : Int) : Bool :=
  let low := scale rounding.below rounding.exponent (-place)
  let high := scale rounding.above rounding.exponent (-place)
  if rounding.closed then
    low.top ≤ point * low.bottom && point * high.bottom ≤ high.top
  else low.top < point * low.bottom && point * high.bottom < high.top

/-- The place of the first digit of the double. -/
def leadingPlace : Int :=
  let shift := 400
  let scaled := scale rounding.quarters rounding.exponent shift
  let digits := (Nat.toDigits 10 (scaled.top / scaled.bottom)).length
  (digits : Int) - 1 - shift

/-- The point of the grid at `place` that rounds to the double. Of two points the
nearer one is taken, and of two equally near ones the even. -/
def onGrid (place : Int) : Option Nat :=
  let scaled := scale rounding.quarters rounding.exponent (-place)
  let floor := scaled.top / scaled.bottom
  let rest := scaled.top % scaled.bottom
  let lower := rounding.holds floor place
  let upper := rounding.holds (floor + 1) place
  let nearer :=
    2 * rest < scaled.bottom || (2 * rest = scaled.bottom && floor % 2 = 0)
  if lower && (!upper || nearer) then some floor
  else if upper then some (floor + 1)
  else none

/-- Drop a zero at the end. The grid above is coarser, so only the first grid of
all can have brought one: its point 10. -/
def dropZero (point : Nat) (place : Int) : Nat × Int :=
  if point % 10 = 0 then (point / 10, place + 1) else (point, place)

/-- The shortest decimal with at least `17 - more` digits, as a whole number and
the place of its last digit. -/
def shortestFrom : (more : Nat) → Nat × Int
  | 0 =>
    let place := rounding.leadingPlace - 16
    ((rounding.onGrid place).getD 0, place)
  | more + 1 =>
    let place := rounding.leadingPlace - (15 - more)
    match rounding.onGrid place with
    | some point => dropZero point place
    | none => shortestFrom more

end Rounding

/-- A whole number times a power of ten, written out with a point. -/
def positional (number : Nat) (place : Int) : List Char :=
  let digits := Nat.toDigits 10 number
  let trailing := List.replicate place.toNat '0'
  let behind := (-place).toNat
  let padded :=
    List.replicate (behind + 1 - digits.length) '0' ++ digits ++ trailing
  let whole := padded.take (padded.length - behind)
  let fraction := padded.drop (padded.length - behind)
  whole ++ '.' :: if fraction.isEmpty then ['0'] else fraction

/-- A whole number, the first digit of which stands for so many units of
`10 ^ exponent`, written with that exponent. There is no point behind a digit
that stands alone. -/
def scientific (number : Nat) (exponent : Int) : List Char :=
  let digits := Nat.toDigits 10 number
  let rest := digits.drop 1
  let sign := if exponent < 0 then '-' else '+'
  digits.take 1 ++ (if rest.isEmpty then [] else '.' :: rest) ++
    'e' :: sign :: Nat.toDigits 10 exponent.natAbs

/-- Whether a decimal whose first digit stands at `10 ^ exponent` is written
without an exponent. -/
def usual (exponent : Int) : Bool :=
  -5 ≤ exponent && exponent < 16

/-- The text of a whole number times a power of ten. -/
def layout (number : Nat) (place : Int) : List Char :=
  let exponent := place + (Nat.toDigits 10 number).length - 1
  if usual exponent then positional number place
  else scientific number exponent

/-- The text of a finite double. -/
def ofFloat (number : Float) : String :=
  let bits := number.toBits.toNat
  let sign := if 1 <<< 63 ≤ bits then ['-'] else []
  let exponentField := bits / (1 <<< 52) % (1 <<< 11)
  let fraction := bits % (1 <<< 52)
  let magnitude :=
    if exponentField = 0 ∧ fraction = 0 then positional 0 0
    else
      let (point, place) :=
        (Rounding.ofFields exponentField fraction).shortestFrom 16
      layout point place
  String.ofList (sign ++ magnitude)

end Decimal

end Carousel
