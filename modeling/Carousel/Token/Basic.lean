/-
# Tokens

A token names an owner of a lock: the name of the lock, the time of minting in
milliseconds, and a random nonce. Its text joins the three with underscores.
The name may hold underscores of its own, the two numbers never do.
-/

import Carousel.Ending
import Carousel.Numeral

namespace Carousel

/-- One more than the largest nonce that is drawn. -/
def nonceBound : Nat := 1000000

/-- A lock-ownership token. -/
structure Token where
  name : String
  timestamp : UInt64
  nonce : UInt32
  deriving DecidableEq

namespace Token

/-- Assemble a token. A nonce out of range is a mistake of the caller. -/
def ofParts (name : String) (timestamp : UInt64) (nonce : UInt32) :
    Ending Token :=
  if nonce.toNat < nonceBound then .returned ⟨name, timestamp, nonce⟩
  else .panicked ("nonce out of range: " ++ Numeral.render nonce.toNat)

/-- The text of a token. -/
def render (token : Token) : String :=
  token.name ++ "_" ++ Numeral.render token.timestamp.toNat ++ "_" ++
    Numeral.render token.nonce.toNat

end Token

end Carousel
