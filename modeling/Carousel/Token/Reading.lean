/-
# Reading tokens

A text is split at its last two underscores, so that everything before them is
the name. The timestamp is looked at before the nonce, although it is split off
after it: a text with two bad numbers has an invalid timestamp.
-/

import Carousel.Token.Basic

namespace Carousel

namespace Token

/-- Why a text is not that of a token. -/
inductive Flaw
  | missingSeparator
  | invalidTimestamp (flaw : Numeral.Flaw)
  | invalidNonce (flaw : Numeral.Flaw)
  | nonceOutOfRange (nonce : Nat)
  deriving DecidableEq

/-- The wording of a flaw. -/
def Flaw.message : Flaw → String
  | .missingSeparator => "expected `name_timestamp_nonce`"
  | .invalidTimestamp flaw => "invalid timestamp: " ++ flaw.message
  | .invalidNonce flaw => "invalid nonce: " ++ flaw.message
  | .nonceOutOfRange nonce =>
    "nonce " ++ Numeral.render nonce ++ " is not below " ++
      Numeral.render nonceBound

/-- What stands before and after the last underscore. -/
def splitLast : List Char → Option (List Char × List Char)
  | [] => none
  | c :: rest =>
    match splitLast rest with
    | some (before, after) => some (c :: before, after)
    | none => if c = '_' then some ([], rest) else none

/-- The name, the timestamp and the nonce in a text. -/
def splitParts (text : List Char) :
    Option (List Char × List Char × List Char) :=
  (splitLast text).bind fun (front, nonce) =>
    (splitLast front).map fun (name, timestamp) => (name, timestamp, nonce)

/-- Read the characters of a token. -/
def read (text : List Char) : Except Flaw Token :=
  match splitParts text with
  | none => .error .missingSeparator
  | some (name, timestampText, nonceText) =>
    match Numeral.read Numeral.wordBound timestampText with
    | .error flaw => .error (.invalidTimestamp flaw)
    | .ok timestamp =>
      match Numeral.read Numeral.halfWordBound nonceText with
      | .error flaw => .error (.invalidNonce flaw)
      | .ok nonce =>
        if nonce < nonceBound then
          .ok ⟨String.ofList name, .ofNat timestamp, .ofNat nonce⟩
        else .error (.nonceOutOfRange nonce)

/-- Read a text as a token. -/
def parse (text : String) : Except Flaw Token :=
  read text.toList

end Token

end Carousel
