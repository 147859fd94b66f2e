/-
# Tokens in structured data

In structured data a token is a string. A value of any other kind is refused by
naming what was found.
-/

import Carousel.Decimal
import Carousel.Text.Quoted
import Carousel.Token.Reading

namespace Carousel

/-- A value in structured data, as far as a reader of tokens looks at it. -/
inductive Payload
  | null
  | boolean (value : Bool)
  | integer (value : Int)
  | float (value : Float)
  | text (value : String)
  | sequence
  | map

/-- What a value is called in a refusal. -/
def Payload.describe : Payload → String
  | .null => "null"
  | .boolean value => "boolean `" ++ (if value then "true" else "false") ++ "`"
  | .integer value => "integer `" ++ toString value ++ "`"
  | .float value => "floating point `" ++ Decimal.ofFloat value ++ "`"
  | .text value => "string " ++ Text.quote value
  | .sequence => "sequence"
  | .map => "map"

namespace Token

/-- Why a value is not a token. -/
inductive Refusal
  | flawed (flaw : Flaw)
  | wrongKind (found : Payload)

/-- The wording of a refusal. -/
def Refusal.message : Refusal → String
  | .flawed flaw => flaw.message
  | .wrongKind found =>
    "invalid type: " ++ found.describe ++
      ", expected a `name_timestamp_nonce` token string"

/-- The value that holds a token. -/
def toPayload (token : Token) : Payload :=
  .text token.render

/-- The token that a value holds. -/
def ofPayload : Payload → Except Refusal Token
  | .text text =>
    match parse text with
    | .ok token => .ok token
    | .error flaw => .error (.flawed flaw)
  | other => .error (.wrongKind other)

end Token

end Carousel
