/-
# Decimals that are written and read back

The canonical decimal of a number consists of digits, has at least one of them,
and stands for no other number. Reading it gives the number back whenever the
number is below the bound of the reader.

A reader gives up at the first digit that takes the value past the bound. The
value never shrinks on the way, so a numeral whose value is below the bound is
read to its end.
-/

import Carousel.Cycle.Advance
import Carousel.Numeral

namespace Carousel

namespace Numeral

/-- The digits of a canonical decimal. -/
theorem toList_render (number : Nat) :
    (render number).toList = Nat.toDigits 10 number :=
  Nat.toList_repr

theorem isDigit_of_mem_render {number : Nat} {digit : Char}
    (listed : digit ∈ (render number).toList) : digit.isDigit = true := by
  rw [toList_render] at listed
  exact Nat.isDigit_of_mem_toDigits (by decide) (by decide) listed

/-- The number that a canonical decimal was written for can be told from its
digits. -/
theorem ofDigitChars_render (number : Nat) :
    Nat.ofDigitChars 10 (render number).toList 0 = number := by
  rw [toList_render, Nat.ofDigitChars_ten_toDigits]

/-- Two numbers are never written alike. -/
theorem render_injective {first second : Nat}
    (same : render first = render second) : first = second := by
  rw [← ofDigitChars_render first, same, ofDigitChars_render]

/-- Reading on never makes the value smaller. -/
theorem le_ofDigitChars (value : Nat) (digits : List Char) :
    value ≤ Nat.ofDigitChars 10 digits value := by
  induction digits generalizing value with
  | nil => exact Nat.le_of_eq Nat.ofDigitChars_nil.symm
  | cons digit rest ih =>
    rw [Nat.ofDigitChars_cons]
    have further := ih (10 * value + (digit.toNat - '0'.toNat))
    omega

/-- Digits are read to their end if the value that they stand for is below the
bound. -/
theorem scan_of_isDigit {bound value : Nat} {digits : List Char}
    (every : ∀ digit ∈ digits, digit.isDigit = true)
    (below : Nat.ofDigitChars 10 digits value < bound) :
    scan bound value digits = .ok (Nat.ofDigitChars 10 digits value) := by
  induction digits generalizing value with
  | nil => rfl
  | cons digit rest ih =>
    rw [Nat.ofDigitChars_cons] at below ⊢
    have here : 10 * value + digitValue digit < bound :=
      Nat.lt_of_le_of_lt (le_ofDigitChars _ rest) below
    rw [scan, if_pos (every digit List.mem_cons_self)]
    simp only [if_pos here]
    exact ih (fun other listed => every other (List.mem_cons_of_mem _ listed)) below

/-- A text of digits, of which there is at least one, is read as the number that
it stands for. -/
theorem read_of_isDigit {bound : Nat} {digits : List Char} (some : digits ≠ [])
    (every : ∀ digit ∈ digits, digit.isDigit = true)
    (below : Nat.ofDigitChars 10 digits 0 < bound) :
    read bound digits = .ok (Nat.ofDigitChars 10 digits 0) := by
  cases digits with
  | nil => exact absurd rfl some
  | cons digit rest =>
    have unsigned : digit ≠ '+' := by
      rintro rfl
      exact absurd (every '+' List.mem_cons_self) (by decide)
    rw [read]
    · exact scan_of_isDigit every below
    · exact fun equal => by cases equal
    · exact fun digits equal => unsigned (List.cons.inj equal).1

/-- A canonical decimal is read as the number that it was written for. -/
theorem parse_render {bound number : Nat} (below : number < bound) :
    parse bound (render number) = .ok number := by
  have digits : (render number).toList ≠ [] := by
    rw [toList_render]
    exact Nat.toDigits_ne_nil
  have within : Nat.ofDigitChars 10 (render number).toList 0 < bound := by
    rwa [ofDigitChars_render]
  rw [parse, read_of_isDigit digits (fun _ => isDigit_of_mem_render) within,
    ofDigitChars_render]

end Numeral

namespace Cycle

/-- The field of a numbered element is named by digits. -/
theorem isElementField_render (index : Nat) :
    isElementField (Numeral.render index) = true := by
  rw [isElementField, Bool.and_eq_true]
  refine ⟨?_, List.all_eq_true.mpr fun _ => Numeral.isDigit_of_mem_render⟩
  rw [Numeral.toList_render, Bool.not_eq_true', List.isEmpty_eq_false_iff]
  exact Nat.toDigits_ne_nil

theorem isElementField_currentField : isElementField currentField = false := by
  decide

/-- No element is kept under the field of the index. -/
theorem render_ne_currentField (index : Nat) :
    Numeral.render index ≠ currentField := by
  intro same
  have element := isElementField_render index
  rw [same, isElementField_currentField] at element
  exact absurd element (by decide)

end Cycle

end Carousel
