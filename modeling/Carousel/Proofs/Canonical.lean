/-
# Which numerals are read, and which of them are written

A numeral is read if it consists of digits, of which there is at least one, with at
most one plus sign in front, and if the number that the digits stand for is below the
bound. Of all the numerals of a number exactly one is canonical, and that one is
written: it has no sign, and no zero in front of other digits.

A numeral can have any number of leading zeros and is read all the same, so nothing
here bounds the length of a text.
-/

import Carousel.Proofs.Numeral

namespace Carousel

namespace Numeral

/-- Digits without a sign, and without a zero in front of other digits. -/
structure Canonical (digits : List Char) : Prop where
  nonempty : digits ≠ []
  isDigit : ∀ digit ∈ digits, digit.isDigit = true
  no_leading_zero : ∀ rest, digits = '0' :: rest → rest = []

/-- The text is a numeral of the number: digits after at most one plus sign. -/
def Denotes (text : List Char) (number : Nat) : Prop :=
  ∃ digits, (text = digits ∨ text = '+' :: digits) ∧ digits ≠ [] ∧
    (∀ digit ∈ digits, digit.isDigit = true) ∧ Nat.ofDigitChars 10 digits 0 = number

/-! ## What is read -/

/-- What is scanned to its end consists of digits, and its value stays below the
bound. -/
theorem isDigit_of_scan {bound value number : Nat} {digits : List Char}
    (scanned : scan bound value digits = .ok number) :
    (∀ digit ∈ digits, digit.isDigit = true) ∧
      Nat.ofDigitChars 10 digits value = number ∧ (value < bound → number < bound) := by
  induction digits generalizing value with
  | nil =>
    cases scanned
    exact ⟨List.forall_mem_nil _, Nat.ofDigitChars_nil, id⟩
  | cons digit rest ih =>
    rw [scan] at scanned
    split at scanned
    · rename_i isDigit
      dsimp only at scanned
      split at scanned
      · rename_i below
        obtain ⟨every, denoted, within⟩ := ih scanned
        refine ⟨?_, ?_, fun _ => within below⟩
        · exact List.forall_mem_cons.mpr ⟨isDigit, every⟩
        · rw [Nat.ofDigitChars_cons]
          exact denoted
      · cases scanned
    · cases scanned

theorem scanSome_eq_ok_iff {bound number : Nat} (positive : 0 < bound)
    {digits : List Char} :
    scanSome bound digits = .ok number ↔
      digits ≠ [] ∧ (∀ digit ∈ digits, digit.isDigit = true) ∧
        Nat.ofDigitChars 10 digits 0 = number ∧ number < bound := by
  cases digits with
  | nil => simp [scanSome]
  | cons digit rest =>
    rw [scanSome]
    · constructor
      · intro scanned
        obtain ⟨every, denoted, within⟩ := isDigit_of_scan scanned
        exact ⟨List.cons_ne_nil _ _, every, denoted, within positive⟩
      · rintro ⟨_, every, denoted, within⟩
        rw [← denoted] at within ⊢
        exact scan_of_isDigit every within
    · exact List.cons_ne_nil _ _

/-- No digit is a plus sign. -/
theorem ne_plus_cons_of_isDigit {digits rest : List Char}
    (every : ∀ digit ∈ digits, digit.isDigit = true) : digits ≠ '+' :: rest := by
  rintro rfl
  exact absurd (every '+' List.mem_cons_self) (by decide)

/-- Exactly the numerals of numbers below the bound are read, as those numbers. -/
theorem read_eq_ok_iff {bound number : Nat} (positive : 0 < bound) {text : List Char} :
    read bound text = .ok number ↔ Denotes text number ∧ number < bound := by
  have signed : ∀ digits, scanSome bound digits = .ok number →
      (text = digits ∨ text = '+' :: digits) → Denotes text number ∧ number < bound := by
    intro digits scanned shape
    obtain ⟨some, every, denoted, within⟩ := (scanSome_eq_ok_iff positive).mp scanned
    exact ⟨⟨digits, shape, some, every, denoted⟩, within⟩
  constructor
  · intro readable
    match text with
    | [] => cases readable
    | '+' :: digits => exact signed digits readable (.inr rfl)
    | digit :: rest =>
      by_cases plus : digit = '+'
      · subst plus
        exact signed rest readable (.inr rfl)
      · rw [read] at readable
        · exact signed _ readable (.inl rfl)
        · exact fun equal => by cases equal
        · exact fun digits equal => plus (List.cons.inj equal).1
  · rintro ⟨⟨digits, rfl | rfl, some, every, denoted⟩, within⟩
    · rw [← denoted] at within ⊢
      exact read_of_isDigit some every within
    · exact (scanSome_eq_ok_iff positive).mpr ⟨some, every, denoted, within⟩

/-! ## What is written -/

theorem toNat_bounds {digit : Char} (isDigit : digit.isDigit = true) :
    48 ≤ digit.toNat ∧ digit.toNat ≤ 57 := by
  rw [Char.isDigit, Bool.and_eq_true, decide_eq_true_eq, decide_eq_true_eq] at isDigit
  exact ⟨UInt32.le_iff_toNat_le.mp isDigit.1, UInt32.le_iff_toNat_le.mp isDigit.2⟩

theorem digitValue_lt {digit : Char} (isDigit : digit.isDigit = true) :
    digitValue digit < 10 := by
  have bounds := toNat_bounds isDigit
  show digit.toNat - 48 < 10
  omega

/-- A number below ten is written as the digit that stands for it. -/
theorem toDigits_digitValue {digit : Char} (isDigit : digit.isDigit = true) :
    Nat.toDigits 10 (digitValue digit) = [digit] := by
  have bounds := toNat_bounds isDigit
  have small := digitValue_lt isDigit
  have same : (digitValue digit).digitChar = digit := by
    apply Char.toNat_inj.mp
    rw [Nat.toNat_digitChar_of_lt_ten small]
    show 48 + (digit.toNat - 48) = digit.toNat
    omega
  rw [Nat.toDigits_of_lt_base small, same]

/-- Only the digit zero has no value. -/
theorem digitValue_pos {digit : Char} (isDigit : digit.isDigit = true)
    (other : digit ≠ '0') : 0 < digitValue digit := by
  have bounds := toNat_bounds isDigit
  have apart : digit.toNat ≠ 48 := fun same => other (Char.toNat_inj.mp same)
  show 0 < digit.toNat - 48
  omega

/-- Digits that are read on after a number are written after it, unless the number is
zero, which would not be written in front of them. -/
theorem toDigits_append {number : Nat} (positive : 0 < number) {digits : List Char}
    (every : ∀ digit ∈ digits, digit.isDigit = true) :
    Nat.toDigits 10 number ++ digits =
      Nat.toDigits 10 (Nat.ofDigitChars 10 digits number) := by
  induction digits generalizing number with
  | nil => rw [List.append_nil, Nat.ofDigitChars_nil]
  | cons digit rest ih =>
    rw [List.forall_mem_cons] at every
    have longer := Nat.toDigits_append_toDigits (by decide : 1 < 10) positive
      (digitValue_lt every.1)
    have more : 0 < 10 * number + digitValue digit := by omega
    rw [toDigits_digitValue every.1] at longer
    rw [← List.singleton_append, ← List.append_assoc, longer, ih more every.2,
      List.singleton_append, Nat.ofDigitChars_cons]
    rfl

/-- Canonical digits are those that are written for the number that they stand for. -/
theorem Canonical.toDigits_eq {digits : List Char} (canonical : Canonical digits) :
    Nat.toDigits 10 (Nat.ofDigitChars 10 digits 0) = digits := by
  cases digits with
  | nil => exact absurd rfl canonical.nonempty
  | cons digit rest =>
    have every := List.forall_mem_cons.mp canonical.isDigit
    have started : Nat.ofDigitChars 10 (digit :: rest) 0 =
        Nat.ofDigitChars 10 rest (digitValue digit) := by
      rw [Nat.ofDigitChars_cons, Nat.mul_zero, Nat.zero_add]
      rfl
    by_cases zero : digit = '0'
    · subst zero
      rw [canonical.no_leading_zero rest rfl]
      rfl
    · rw [started, ← toDigits_append (digitValue_pos every.1 zero) every.2,
        toDigits_digitValue every.1, List.singleton_append]

/-- A number other than zero is not written with a zero in front. -/
theorem toDigits_ne_zero_cons {number : Nat} (positive : 0 < number) (rest : List Char) :
    Nat.toDigits 10 number ≠ '0' :: rest := by
  induction number using Nat.strongRecOn generalizing rest with
  | ind number ih =>
    rw [Nat.toDigits_eq_if (by decide)]
    split
    · rename_i small
      intro same
      have value := congrArg (Nat.ofDigitChars 10 · 0) (Nat.toDigits_of_lt_base small)
      rw [(List.cons.inj same).1, Nat.ofDigitChars_ten_toDigits] at value
      exact Nat.ne_of_gt positive value
    · rename_i large
      cases front : Nat.toDigits 10 (number / 10) with
      | nil => exact absurd front Nat.toDigits_ne_nil
      | cons digit more =>
        rw [List.cons_append]
        intro same
        apply ih (number / 10) (by omega) (by omega) more
        rw [front, (List.cons.inj same).1]

theorem canonical_render (number : Nat) : Canonical (render number).toList where
  nonempty := by
    rw [toList_render]
    exact Nat.toDigits_ne_nil
  isDigit := fun _ => isDigit_of_mem_render
  no_leading_zero := by
    intro rest leading
    rw [toList_render] at leading
    rcases Nat.eq_zero_or_pos number with rfl | positive
    · exact (List.cons.inj leading).2.symm
    · exact absurd leading (toDigits_ne_zero_cons positive rest)

/-- What is read is what would be written exactly if it is canonical. -/
theorem toList_render_eq_iff {bound number : Nat} (positive : 0 < bound)
    {text : List Char} (readable : read bound text = .ok number) :
    (render number).toList = text ↔ Canonical text := by
  constructor
  · rintro rfl
    exact canonical_render number
  · intro canonical
    obtain ⟨⟨digits, shape, _, _, denoted⟩, _⟩ := (read_eq_ok_iff positive).mp readable
    have unsigned : text = digits :=
      shape.resolve_right (ne_plus_cons_of_isDigit canonical.isDigit)
    rw [toList_render, ← denoted, ← unsigned, canonical.toDigits_eq]

end Numeral

end Carousel
