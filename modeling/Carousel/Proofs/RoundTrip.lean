/-
# Tokens that are written and read back

A token whose nonce is in range is read back from its text, whatever its name holds,
and from the value that holds it in structured data. Reading gives no other tokens.

The other way round a text need not come back as it was: its numbers may have a plus
sign or leading zeros, which are not written again. These are the only differences.
What stands before the last two underscores is the name, and it is never changed.
-/

import Carousel.Proofs.Canonical
import Carousel.Proofs.TokenText
import Carousel.Token.Payload

namespace Carousel

namespace Token

/-- The text ends in two parts without underscores, which are set off by underscores
from each other and from the name in front of them. -/
structure Segments (text name timestamp nonce : List Char) : Prop where
  joined : text = (name ++ '_' :: timestamp) ++ '_' :: nonce
  timestamp_whole : '_' ∉ timestamp
  nonce_whole : '_' ∉ nonce

/-! ## Where texts are split -/

/-- Only a text without underscores is not split. -/
theorem not_mem_of_splitLast {text : List Char} (unsplit : splitLast text = none) :
    '_' ∉ text := by
  induction text with
  | nil => exact List.not_mem_nil
  | cons c rest ih =>
    rw [splitLast] at unsplit
    split at unsplit
    · cases unsplit
    · rename_i whole
      split at unsplit
      · cases unsplit
      · rename_i other
        rw [List.mem_cons, not_or]
        exact ⟨Ne.symm other, ih whole⟩

theorem splitLast_eq_some_iff {text before behind : List Char} :
    splitLast text = some (before, behind) ↔
      text = before ++ '_' :: behind ∧ '_' ∉ behind := by
  constructor
  · intro found
    induction text generalizing before with
    | nil => cases found
    | cons c rest ih =>
      rw [splitLast] at found
      split at found
      · rename_i front back later
        cases found
        obtain ⟨joined, whole⟩ := ih later
        exact ⟨congrArg (List.cons c) joined, whole⟩
      · rename_i unsplit
        split at found
        · rename_i here
          cases found
          exact ⟨congrArg (· :: behind) here, not_mem_of_splitLast unsplit⟩
        · cases found
  · rintro ⟨rfl, whole⟩
    exact splitLast_append before whole

/-- A text is split into a name and its last two segments. -/
theorem splitParts_eq_some_iff {text name timestamp nonce : List Char} :
    splitParts text = some (name, timestamp, nonce) ↔
      Segments text name timestamp nonce := by
  rw [splitParts, Option.bind_eq_some_iff]
  constructor
  · rintro ⟨⟨front, last⟩, found, inner⟩
    obtain ⟨⟨first, second⟩, split, same⟩ := Option.map_eq_some_iff.mp inner
    cases same
    obtain ⟨joined, nonce_whole⟩ := splitLast_eq_some_iff.mp found
    obtain ⟨rfl, timestamp_whole⟩ := splitLast_eq_some_iff.mp split
    exact ⟨joined, timestamp_whole, nonce_whole⟩
  · intro segments
    have inner := splitLast_append name segments.timestamp_whole
    refine ⟨(name ++ '_' :: timestamp, nonce), ?_, ?_⟩
    · exact splitLast_eq_some_iff.mpr ⟨segments.joined, segments.nonce_whole⟩
    · simp only [inner, Option.map_some]

/-! ## What is read -/

/-- What it takes for a text to be read as a token. -/
structure Reads (text : List Char) (token : Token) (timestamp nonce : List Char) :
    Prop where
  segments : Segments text token.name.toList timestamp nonce
  timestamp_read :
    Numeral.read Numeral.wordBound timestamp = .ok token.timestamp.toNat
  nonce_read : Numeral.read Numeral.halfWordBound nonce = .ok token.nonce.toNat
  nonce_lt : token.nonce.toNat < nonceBound

theorem wordBound_pos : 0 < Numeral.wordBound := by
  decide

theorem halfWordBound_pos : 0 < Numeral.halfWordBound := by
  decide

theorem read_eq_ok_iff {text : List Char} {token : Token} :
    read text = .ok token ↔ ∃ timestamp nonce, Reads text token timestamp nonce := by
  constructor
  · intro readable
    rw [read] at readable
    split at readable
    · cases readable
    · rename_i name timestamp nonce parts
      split at readable
      · cases readable
      · rename_i time timestamp_read
        split at readable
        · cases readable
        · rename_i number nonce_read
          split at readable
          · rename_i below
            cases readable
            have segments := splitParts_eq_some_iff.mp parts
            have timely := ((Numeral.read_eq_ok_iff wordBound_pos).mp timestamp_read).2
            have small := ((Numeral.read_eq_ok_iff halfWordBound_pos).mp nonce_read).2
            have sameTime : (UInt64.ofNat time).toNat = time :=
              UInt64.toNat_ofNat_of_lt' timely
            have sameNumber : (UInt32.ofNat number).toNat = number :=
              UInt32.toNat_ofNat_of_lt' small
            refine ⟨timestamp, nonce, ?_, ?_, ?_, ?_⟩
            · rw [String.toList_ofList]
              exact segments
            · rw [sameTime]
              exact timestamp_read
            · rw [sameNumber]
              exact nonce_read
            · rw [sameNumber]
              exact below
          · cases readable
  · rintro ⟨timestamp, nonce, reads⟩
    rw [read, splitParts_eq_some_iff.mpr reads.segments]
    simp only [reads.timestamp_read, reads.nonce_read, if_pos reads.nonce_lt]
    rw [String.ofList_toList, UInt64.ofNat_toNat, UInt32.ofNat_toNat]

/-- A token in range is read from its own text. -/
theorem parse_render {token : Token} (inRange : token.nonce.toNat < nonceBound) :
    parse token.render = .ok token := by
  apply read_eq_ok_iff.mpr
  refine ⟨(Numeral.render token.timestamp.toNat).toList,
    (Numeral.render token.nonce.toNat).toList, ?_, ?_, ?_, inRange⟩
  · exact splitParts_eq_some_iff.mp (splitParts_render token)
  · exact Numeral.parse_render token.timestamp.toNat_lt
  · exact Numeral.parse_render token.nonce.toNat_lt

/-- A token is written as the text that it was read from exactly if the two numbers
there are canonical. -/
theorem Reads.render_eq_iff {text : String} {token : Token} {timestamp nonce : List Char}
    (reads : Reads text.toList token timestamp nonce) :
    token.render = text ↔ Numeral.Canonical timestamp ∧ Numeral.Canonical nonce := by
  rw [← Numeral.toList_render_eq_iff wordBound_pos reads.timestamp_read,
    ← Numeral.toList_render_eq_iff halfWordBound_pos reads.nonce_read]
  have written := splitParts_render token
  constructor
  · rintro rfl
    rw [splitParts_eq_some_iff.mpr reads.segments] at written
    cases written
    exact ⟨rfl, rfl⟩
  · rintro ⟨sameTime, sameNonce⟩
    have joined := (splitParts_eq_some_iff.mp written).joined
    rw [sameTime, sameNonce, ← reads.segments.joined] at joined
    exact String.toList_inj.mp joined

/-- A text that is read as a token comes back exactly if it ends in two canonical
decimals. -/
theorem render_eq_iff_of_parse {text : String} {token : Token}
    (readable : parse text = .ok token) :
    token.render = text ↔ ∃ name timestamp nonce,
      Segments text.toList name timestamp nonce ∧
        Numeral.Canonical timestamp ∧ Numeral.Canonical nonce := by
  obtain ⟨timestamp, nonce, reads⟩ := read_eq_ok_iff.mp readable
  rw [reads.render_eq_iff]
  constructor
  · intro canonical
    exact ⟨token.name.toList, timestamp, nonce, reads.segments, canonical⟩
  · rintro ⟨name, second, last, segments, canonical⟩
    -- A text has only one pair of last segments.
    have same := splitParts_eq_some_iff.mpr segments
    rw [splitParts_eq_some_iff.mpr reads.segments] at same
    cases same
    exact canonical

theorem nonce_lt_of_parse {text : String} {token : Token}
    (readable : parse text = .ok token) : token.nonce.toNat < nonceBound := by
  obtain ⟨_, _, reads⟩ := read_eq_ok_iff.mp readable
  exact reads.nonce_lt

/-- In structured data, tokens are the texts that are read as tokens. -/
theorem ofPayload_eq_ok_iff {value : Payload} {token : Token} :
    ofPayload value = .ok token ↔
      ∃ text, value = .text text ∧ parse text = .ok token := by
  constructor
  · intro readable
    match value with
    | .text text =>
      rw [ofPayload] at readable
      split at readable
      · rename_i parsed
        cases readable
        exact ⟨text, rfl, parsed⟩
      · cases readable
    | .null | .boolean _ | .integer _ | .float _ | .sequence | .map => cases readable
  · rintro ⟨text, rfl, parsed⟩
    simp only [ofPayload, parsed]

/-- **Tokens and their texts round-trip.** A token in range is read back from its text
and from structured data. Whatever is read, from either, is in range and is read again
from its own text; and the text is the one that it was read from exactly if the last
two segments there are canonical decimals. -/
theorem texts_round_trip :
    (∀ token : Token, token.nonce.toNat < nonceBound →
      parse token.render = .ok token ∧ ofPayload token.toPayload = .ok token) ∧
    (∀ (text : String) (token : Token), parse text = .ok token →
      token.nonce.toNat < nonceBound ∧ parse token.render = .ok token ∧
        (token.render = text ↔ ∃ name timestamp nonce,
          Segments text.toList name timestamp nonce ∧
            Numeral.Canonical timestamp ∧ Numeral.Canonical nonce)) ∧
    (∀ (value : Payload) (token : Token),
      (ofPayload value = .ok token ↔
        ∃ text, value = .text text ∧ parse text = .ok token) ∧
      (ofPayload value = .ok token → token.nonce.toNat < nonceBound)) := by
  refine ⟨?_, ?_, ?_⟩
  · intro token inRange
    have readable := parse_render inRange
    exact ⟨readable, ofPayload_eq_ok_iff.mpr ⟨token.render, rfl, readable⟩⟩
  · intro text token readable
    have inRange := nonce_lt_of_parse readable
    exact ⟨inRange, parse_render inRange, render_eq_iff_of_parse readable⟩
  · intro value token
    refine ⟨ofPayload_eq_ok_iff, fun readable => ?_⟩
    obtain ⟨_, _, parsed⟩ := ofPayload_eq_ok_iff.mp readable
    exact nonce_lt_of_parse parsed

/-- A sign and leading zeros are lost, and the underscores of a name are not. -/
example : (parse "a_2__+007_000").toOption.map render = some "a_2__7_0" := by
  decide +kernel

end Token

end Carousel
