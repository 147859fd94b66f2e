/-
# Why texts are refused

A text is not read as a number for one of three reasons. It is empty; or some
characters at its front are already the numeral of a number that is too large; or it is
no numeral. Whatever stands behind digits that are too many is not looked at.

A text is not read as a token because it has no two underscores, or because of the part
between its last two underscores, or because of the part behind them, in this order. So
each text has one verdict, and the parts decide which.
-/

import Carousel.Proofs.RoundTrip

namespace Carousel

namespace Numeral

/-- The text is a numeral of some number below the bound. -/
def Fits (bound : Nat) (text : List Char) : Prop :=
  ∃ number, Denotes text number ∧ number < bound

/-- Characters at the front of the text are a numeral of a number that is not below the
bound. -/
def Overruns (bound : Nat) (text : List Char) : Prop :=
  ∃ front rest number, text = front ++ rest ∧ Denotes front number ∧ bound ≤ number

/-- What keeps a text from being a numeral of a number below the bound. -/
def Flawed (bound : Nat) (text : List Char) : Flaw → Prop
  | .empty => text = []
  | .tooLarge => Overruns bound text
  | .invalidDigit => text ≠ [] ∧ ¬ Overruns bound text ∧ ¬ Fits bound text

variable {bound number other value : Nat} {text digits : List Char} {flaw : Flaw}

/-- A text is a numeral of one number only. -/
theorem Denotes.unique (first : Denotes text number) (second : Denotes text other) :
    number = other := by
  have positive : 0 < max number other + 1 := Nat.succ_pos _
  have one := (read_eq_ok_iff positive).mpr ⟨first, by omega⟩
  have two := (read_eq_ok_iff positive).mpr ⟨second, by omega⟩
  rw [one] at two
  exact Except.ok.inj two

theorem Denotes.ne_nil (denotes : Denotes text number) : text ≠ [] := by
  obtain ⟨digits, rfl | rfl, some, _⟩ := denotes
  · exact some
  · exact List.cons_ne_nil _ _

theorem denotes_plus_cons_iff :
    Denotes ('+' :: digits) number ↔
      digits ≠ [] ∧ (∀ digit ∈ digits, digit.isDigit = true) ∧
        Nat.ofDigitChars 10 digits 0 = number := by
  constructor
  · rintro ⟨denoted, shape | shape, some, every, same⟩
    · exact absurd shape.symm (ne_plus_cons_of_isDigit every)
    · cases shape
      exact ⟨some, every, same⟩
  · rintro ⟨some, every, same⟩
    exact ⟨digits, .inr rfl, some, every, same⟩

theorem denotes_iff_of_ne_plus (unsigned : ∀ rest, text ≠ '+' :: rest) :
    Denotes text number ↔
      text ≠ [] ∧ (∀ digit ∈ text, digit.isDigit = true) ∧
        Nat.ofDigitChars 10 text 0 = number := by
  constructor
  · rintro ⟨denoted, shape | shape, some, every, same⟩
    · cases shape
      exact ⟨some, every, same⟩
    · exact absurd shape (unsigned denoted)
  · rintro ⟨some, every, same⟩
    exact ⟨text, .inl rfl, some, every, same⟩

/-! ## Where reading stops -/

/-- Digits at the front stand for a number that is not below the bound. -/
def Exceeds (bound value : Nat) (digits : List Char) : Prop :=
  ∃ front rest, digits = front ++ rest ∧ (∀ digit ∈ front, digit.isDigit = true) ∧
    bound ≤ Nat.ofDigitChars 10 front value

theorem exceeds_cons_iff (small : value < bound) {digit : Char} :
    Exceeds bound value (digit :: digits) ↔
      digit.isDigit = true ∧
        (bound ≤ 10 * value + digitValue digit ∨
          Exceeds bound (10 * value + digitValue digit) digits) := by
  constructor
  · rintro ⟨front, rest, split, every, large⟩
    cases front with
    | nil =>
      rw [Nat.ofDigitChars_nil] at large
      omega
    | cons first front =>
      obtain ⟨rfl, rfl⟩ := List.cons.inj split
      rw [List.forall_mem_cons] at every
      rw [Nat.ofDigitChars_cons] at large
      exact ⟨every.1, .inr ⟨front, rest, rfl, every.2, large⟩⟩
  · rintro ⟨isDigit, large | ⟨front, rest, rfl, every, large⟩⟩
    · refine ⟨[digit], digits, rfl, List.forall_mem_singleton.mpr isDigit, ?_⟩
      rw [Nat.ofDigitChars_cons, Nat.ofDigitChars_nil]
      exact large
    · refine ⟨digit :: front, rest, rfl, List.forall_mem_cons.mpr ⟨isDigit, every⟩, ?_⟩
      rw [Nat.ofDigitChars_cons]
      exact large

theorem scan_eq_tooLarge_iff (small : value < bound) :
    scan bound value digits = .error .tooLarge ↔ Exceeds bound value digits := by
  induction digits generalizing value with
  | nil =>
    refine iff_of_false nofun ?_
    rintro ⟨front, rest, split, _, large⟩
    obtain ⟨rfl, _⟩ := List.append_eq_nil_iff.mp split.symm
    rw [Nat.ofDigitChars_nil] at large
    omega
  | cons digit rest ih =>
    rw [exceeds_cons_iff small, scan]
    by_cases isDigit : digit.isDigit = true
    · by_cases within : 10 * value + digitValue digit < bound
      · simp [isDigit, within, ih within, Nat.not_le.mpr within]
      · simp [isDigit, within, Nat.not_lt.mp within]
    · simp [isDigit]

theorem scan_ne_empty (bound value : Nat) (digits : List Char) :
    scan bound value digits ≠ .error .empty := by
  induction digits generalizing value with
  | nil => simp [scan]
  | cons digit rest ih =>
    rw [scan]
    split
    · dsimp only
      split
      · exact ih _
      · simp
    · simp

theorem scanSome_eq_tooLarge_iff (positive : 0 < bound) :
    scanSome bound digits = .error .tooLarge ↔ Exceeds bound 0 digits := by
  rw [← scan_eq_tooLarge_iff positive]
  cases digits with
  | nil => simp [scanSome, scan]
  | cons digit rest =>
    rw [scanSome]
    exact List.cons_ne_nil _ _

theorem overruns_plus_cons_iff (positive : 0 < bound) :
    Overruns bound ('+' :: digits) ↔ Exceeds bound 0 digits := by
  constructor
  · rintro ⟨front, rest, number, split, denoted, large⟩
    cases front with
    | nil => exact absurd rfl denoted.ne_nil
    | cons first front =>
      obtain ⟨rfl, rfl⟩ := List.cons.inj split
      obtain ⟨_, every, rfl⟩ := denotes_plus_cons_iff.mp denoted
      exact ⟨front, rest, rfl, every, large⟩
  · rintro ⟨front, rest, rfl, every, large⟩
    have some : front ≠ [] := by
      rintro rfl
      rw [Nat.ofDigitChars_nil] at large
      omega
    exact ⟨'+' :: front, rest, _, rfl,
      denotes_plus_cons_iff.mpr ⟨some, every, rfl⟩, large⟩

theorem overruns_iff_of_ne_plus (positive : 0 < bound)
    (unsigned : ∀ rest, text ≠ '+' :: rest) :
    Overruns bound text ↔ Exceeds bound 0 text := by
  have short : ∀ {front rest : List Char}, text = front ++ rest →
      ∀ more, front ≠ '+' :: more := by
    rintro front rest rfl more rfl
    exact unsigned _ rfl
  constructor
  · rintro ⟨front, rest, number, split, denoted, large⟩
    obtain ⟨_, every, rfl⟩ := (denotes_iff_of_ne_plus (short split)).mp denoted
    exact ⟨front, rest, split, every, large⟩
  · rintro ⟨front, rest, split, every, large⟩
    have some : front ≠ [] := by
      rintro rfl
      rw [Nat.ofDigitChars_nil] at large
      omega
    exact ⟨front, rest, _, split,
      (denotes_iff_of_ne_plus (short split)).mpr ⟨some, every, rfl⟩, large⟩

theorem scanSome_ne_empty (bound : Nat) (digits : List Char) :
    scanSome bound digits ≠ .error .empty := by
  cases digits with
  | nil => nofun
  | cons digit rest =>
    rw [scanSome]
    · exact scan_ne_empty _ _ _
    · exact List.cons_ne_nil _ _

theorem read_eq_empty_iff : read bound text = .error .empty ↔ text = [] := by
  constructor
  · intro refused
    unfold read at refused
    split at refused
    · rfl
    · exact absurd refused (scanSome_ne_empty _ _)
    · exact absurd refused (scanSome_ne_empty _ _)
  · rintro rfl
    rfl

section

variable (positive : 0 < bound)

include positive

theorem read_eq_tooLarge_iff : read bound text = .error .tooLarge ↔ Overruns bound text := by
  by_cases signed : ∃ digits, text = '+' :: digits
  · obtain ⟨digits, rfl⟩ := signed
    rw [overruns_plus_cons_iff positive, ← scanSome_eq_tooLarge_iff positive, read]
  · have unsigned : ∀ rest, text ≠ '+' :: rest := fun rest same => signed ⟨rest, same⟩
    rw [overruns_iff_of_ne_plus positive unsigned, ← scanSome_eq_tooLarge_iff positive]
    cases text with
    | nil => simp [read, scanSome]
    | cons digit rest =>
      rw [read]
      · exact List.cons_ne_nil _ _
      · exact fun digits same => unsigned digits same

/-- Exactly the texts that are no numerals of numbers below the bound are refused. -/
theorem exists_read_eq_error_iff :
    (∃ flaw, read bound text = .error flaw) ↔ ¬ Fits bound text := by
  constructor
  · rintro ⟨flaw, refused⟩ ⟨number, fits⟩
    rw [(read_eq_ok_iff positive).mpr fits] at refused
    cases refused
  · intro unfit
    cases outcome : read bound text with
    | ok number => exact absurd ⟨number, (read_eq_ok_iff positive).mp outcome⟩ unfit
    | error flaw => exact ⟨flaw, rfl⟩

/-- What is reported is what is wrong with the text. -/
theorem flawed_of_read (refused : read bound text = .error flaw) :
    Flawed bound text flaw := by
  cases flaw with
  | empty => exact read_eq_empty_iff.mp refused
  | tooLarge => exact (read_eq_tooLarge_iff positive).mp refused
  | invalidDigit =>
    refine ⟨?_, ?_, (exists_read_eq_error_iff positive).mp ⟨_, refused⟩⟩
    · rw [Ne, ← @read_eq_empty_iff bound, refused]
      nofun
    · rw [← read_eq_tooLarge_iff positive, refused]
      nofun

end

end Numeral

namespace Token

variable {text name timestamp nonce : List Char}

/-! ## Where texts can be split -/

theorem Segments.two_le_count (segments : Segments text name timestamp nonce) :
    2 ≤ text.count '_' := by
  rw [segments.joined]
  simp only [List.count_append, List.count_cons_self]
  omega

/-- A text can be split exactly if it has two underscores. -/
theorem exists_segments_iff :
    (∃ name timestamp nonce, Segments text name timestamp nonce) ↔
      2 ≤ text.count '_' := by
  constructor
  · rintro ⟨name, timestamp, nonce, segments⟩
    exact segments.two_le_count
  · intro two
    cases outer : splitLast text with
    | none =>
      rw [List.count_eq_zero.mpr (not_mem_of_splitLast outer)] at two
      omega
    | some parts =>
      obtain ⟨front, nonce⟩ := parts
      obtain ⟨rfl, nonce_whole⟩ := splitLast_eq_some_iff.mp outer
      cases inner : splitLast front with
      | none =>
        have none := List.count_eq_zero.mpr (not_mem_of_splitLast inner)
        have last := List.count_eq_zero.mpr nonce_whole
        rw [List.count_append, List.count_cons_self] at two
        omega
      | some parts =>
        obtain ⟨name, timestamp⟩ := parts
        obtain ⟨rfl, timestamp_whole⟩ := splitLast_eq_some_iff.mp inner
        exact ⟨name, timestamp, nonce, rfl, timestamp_whole, nonce_whole⟩

/-! ## The verdict on a text -/

/-- The verdicts on a text with these segments. -/
inductive Verdict (name timestamp nonce : List Char) : Except Flaw Token → Prop
  | invalidTimestamp {flaw : Numeral.Flaw}
    (flawed : Numeral.Flawed Numeral.wordBound timestamp flaw)
    (unfit : ¬ Numeral.Fits Numeral.wordBound timestamp) :
    Verdict name timestamp nonce (.error (.invalidTimestamp flaw))
  | invalidNonce (timely : Numeral.Fits Numeral.wordBound timestamp) {flaw : Numeral.Flaw}
    (flawed : Numeral.Flawed Numeral.halfWordBound nonce flaw)
    (unfit : ¬ Numeral.Fits Numeral.halfWordBound nonce) :
    Verdict name timestamp nonce (.error (.invalidNonce flaw))
  | nonceOutOfRange (timely : Numeral.Fits Numeral.wordBound timestamp) {number : Nat}
    (denoted : Numeral.Denotes nonce number) (small : number < Numeral.halfWordBound)
    (large : nonceBound ≤ number) :
    Verdict name timestamp nonce (.error (.nonceOutOfRange number))
  | token {time number : Nat} (timely : time < Numeral.wordBound)
    (time_denoted : Numeral.Denotes timestamp time)
    (denoted : Numeral.Denotes nonce number) (small : number < Numeral.halfWordBound)
    (inRange : number < nonceBound) :
    Verdict name timestamp nonce (.ok ⟨String.ofList name, .ofNat time, .ofNat number⟩)

theorem Segments.verdict (segments : Segments text name timestamp nonce) :
    Verdict name timestamp nonce (read text) := by
  rw [read, splitParts_eq_some_iff.mpr segments]
  dsimp only
  split
  · rename_i flaw refused
    exact .invalidTimestamp (Numeral.flawed_of_read wordBound_pos refused)
      ((Numeral.exists_read_eq_error_iff wordBound_pos).mp ⟨flaw, refused⟩)
  · rename_i time timestamp_read
    obtain ⟨time_denoted, timely⟩ := (Numeral.read_eq_ok_iff wordBound_pos).mp timestamp_read
    have fits : Numeral.Fits Numeral.wordBound timestamp := ⟨time, time_denoted, timely⟩
    split
    · rename_i flaw refused
      exact .invalidNonce fits (Numeral.flawed_of_read halfWordBound_pos refused)
        ((Numeral.exists_read_eq_error_iff halfWordBound_pos).mp ⟨flaw, refused⟩)
    · rename_i number nonce_read
      obtain ⟨denoted, small⟩ := (Numeral.read_eq_ok_iff halfWordBound_pos).mp nonce_read
      split
      · rename_i inRange
        exact .token timely time_denoted denoted small inRange
      · rename_i outOfRange
        exact .nonceOutOfRange fits denoted small (Nat.not_lt.mp outOfRange)

section

variable {outcome : Except Flaw Token} (verdict : Verdict name timestamp nonce outcome)

include verdict

theorem Verdict.ne_missingSeparator : outcome ≠ .error .missingSeparator := by
  cases verdict <;> nofun

theorem Verdict.invalidTimestamp_iff :
    (∃ flaw, outcome = .error (.invalidTimestamp flaw)) ↔
      ¬ Numeral.Fits Numeral.wordBound timestamp := by
  cases verdict with
  | invalidTimestamp flawed unfit => exact iff_of_true ⟨_, rfl⟩ unfit
  | invalidNonce timely | nonceOutOfRange timely =>
    exact iff_of_false (by simp) fun unfit => unfit timely
  | token timely denoted =>
    exact iff_of_false (by simp) fun unfit => unfit ⟨_, denoted, timely⟩

theorem Verdict.flawed_timestamp {flaw : Numeral.Flaw}
    (refused : outcome = .error (.invalidTimestamp flaw)) :
    Numeral.Flawed Numeral.wordBound timestamp flaw := by
  subst refused
  cases verdict
  assumption

theorem Verdict.invalidNonce_iff :
    (∃ flaw, outcome = .error (.invalidNonce flaw)) ↔
      Numeral.Fits Numeral.wordBound timestamp ∧
        ¬ Numeral.Fits Numeral.halfWordBound nonce := by
  cases verdict with
  | invalidTimestamp flawed unfit => exact iff_of_false (by simp) fun both => unfit both.1
  | invalidNonce timely flawed unfit => exact iff_of_true ⟨_, rfl⟩ ⟨timely, unfit⟩
  | nonceOutOfRange timely denoted small | token timely _ denoted small =>
    exact iff_of_false (by simp) fun both => both.2 ⟨_, denoted, small⟩

theorem Verdict.flawed_nonce {flaw : Numeral.Flaw}
    (refused : outcome = .error (.invalidNonce flaw)) :
    Numeral.Flawed Numeral.halfWordBound nonce flaw := by
  subst refused
  cases verdict
  assumption

theorem Verdict.nonceOutOfRange_iff {number : Nat} :
    outcome = .error (.nonceOutOfRange number) ↔
      Numeral.Fits Numeral.wordBound timestamp ∧ Numeral.Denotes nonce number ∧
        number < Numeral.halfWordBound ∧ nonceBound ≤ number := by
  constructor
  · rintro rfl
    cases verdict with
    | nonceOutOfRange timely denoted small large => exact ⟨timely, denoted, small, large⟩
  · rintro ⟨timely, denoted, small, large⟩
    cases verdict with
    | invalidTimestamp flawed unfit => exact absurd timely unfit
    | invalidNonce _ flawed unfit => exact absurd ⟨_, denoted, small⟩ unfit
    | nonceOutOfRange _ other => rw [other.unique denoted]
    | token _ _ other _ inRange =>
      rw [other.unique denoted] at inRange
      exact absurd inRange (Nat.not_lt.mpr large)

theorem Verdict.token_iff {token : Token} :
    outcome = .ok token ↔
      token.name.toList = name ∧ Numeral.Denotes timestamp token.timestamp.toNat ∧
        Numeral.Denotes nonce token.nonce.toNat ∧ token.nonce.toNat < nonceBound := by
  constructor
  · rintro rfl
    cases verdict with
    | @token time number timely time_denoted denoted small inRange =>
      have sameTime : (UInt64.ofNat time).toNat = time := UInt64.toNat_ofNat_of_lt' timely
      have sameNumber : (UInt32.ofNat number).toNat = number :=
        UInt32.toNat_ofNat_of_lt' small
      refine ⟨String.toList_ofList, ?_, ?_, ?_⟩
      · rwa [sameTime]
      · rwa [sameNumber]
      · rwa [sameNumber]
  · rintro ⟨rfl, time_denoted, denoted, inRange⟩
    have timely : token.timestamp.toNat < Numeral.wordBound := token.timestamp.toNat_lt
    have small : token.nonce.toNat < Numeral.halfWordBound := token.nonce.toNat_lt
    cases verdict with
    | invalidTimestamp flawed unfit => exact absurd ⟨_, time_denoted, timely⟩ unfit
    | invalidNonce _ flawed unfit => exact absurd ⟨_, denoted, small⟩ unfit
    | nonceOutOfRange _ other _ large =>
      rw [other.unique denoted] at large
      exact absurd inRange (Nat.not_lt.mpr large)
    | token _ otherTime other =>
      rw [otherTime.unique time_denoted, other.unique denoted, String.ofList_toList,
        UInt64.ofNat_toNat, UInt32.ofNat_toNat]

end

theorem parse_eq_missingSeparator_iff {text : String} :
    parse text = .error .missingSeparator ↔ text.toList.count '_' < 2 := by
  rw [parse, ← Nat.not_le, ← exists_segments_iff]
  constructor
  · rintro refused ⟨name, timestamp, nonce, segments⟩
    exact segments.verdict.ne_missingSeparator refused
  · intro unsplit
    cases parts : splitParts text.toList with
    | none => rw [read, parts]
    | some found => exact absurd ⟨_, _, _, splitParts_eq_some_iff.mp parts⟩ unsplit

/-- **Every text has the verdict of its parts.** A text with fewer than two underscores
lacks a separator, and it is the only kind that does. Any other text is split at its last
two underscores. Its timestamp is invalid exactly if that part is no numeral of a number
below `2 ^ 64`, whatever the nonce is. Otherwise its nonce is invalid exactly if that part
is no numeral of a number below `2 ^ 32`, out of range exactly if it is a numeral of a
number from a million on, and otherwise the text is a token, which has the name and the
numbers that stand there. What is reported about a part is what is wrong with it. -/
theorem parse_verdict (text : String) :
    (parse text = .error .missingSeparator ↔ text.toList.count '_' < 2) ∧
    (2 ≤ text.toList.count '_' →
      ∃ name timestamp nonce, Segments text.toList name timestamp nonce) ∧
    ∀ name timestamp nonce, Segments text.toList name timestamp nonce →
      ((∃ flaw, parse text = .error (.invalidTimestamp flaw)) ↔
        ¬ Numeral.Fits Numeral.wordBound timestamp) ∧
      ((∃ flaw, parse text = .error (.invalidNonce flaw)) ↔
        Numeral.Fits Numeral.wordBound timestamp ∧
          ¬ Numeral.Fits Numeral.halfWordBound nonce) ∧
      (∀ number, parse text = .error (.nonceOutOfRange number) ↔
        Numeral.Fits Numeral.wordBound timestamp ∧ Numeral.Denotes nonce number ∧
          number < Numeral.halfWordBound ∧ nonceBound ≤ number) ∧
      (∀ token : Token, parse text = .ok token ↔
        token.name.toList = name ∧ Numeral.Denotes timestamp token.timestamp.toNat ∧
          Numeral.Denotes nonce token.nonce.toNat ∧ token.nonce.toNat < nonceBound) ∧
      ∀ flaw,
        (parse text = .error (.invalidTimestamp flaw) →
          Numeral.Flawed Numeral.wordBound timestamp flaw) ∧
        (parse text = .error (.invalidNonce flaw) →
          Numeral.Flawed Numeral.halfWordBound nonce flaw) := by
  refine ⟨parse_eq_missingSeparator_iff, exists_segments_iff.mpr, ?_⟩
  intro name timestamp nonce segments
  have verdict : Verdict name timestamp nonce (parse text) := segments.verdict
  refine ⟨verdict.invalidTimestamp_iff, verdict.invalidNonce_iff,
    fun number => verdict.nonceOutOfRange_iff, fun token => verdict.token_iff, ?_⟩
  exact fun flaw => ⟨verdict.flawed_timestamp, verdict.flawed_nonce⟩

/-- The timestamp is looked at first, and too many digits before what stands behind
them. -/
example : parse "a__99999999999999999999x_y" = .error (.invalidTimestamp .tooLarge) := by
  rfl

end Token

end Carousel
