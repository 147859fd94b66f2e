/-
# Scripts and what they answer

A script is a body with a name. It runs inside the store, with nothing else
touching the store meanwhile, on a list of keys and a list of arguments.
-/

import Carousel.Script.Bundled
import Carousel.Text.Quoted

namespace Carousel

/-- What a script answers. -/
inductive Scalar
  | text (value : String)
  | int (value : Int)
  | nil
  deriving DecidableEq

/-- An answer as it is shown in messages. -/
def Scalar.describe : Scalar → String
  | .text value => "Str(" ++ Text.quote value ++ ")"
  | .int value => "Int(" ++ toString value ++ ")"
  | .nil => "Nil"

/-- A named script body. -/
structure Script where
  name : String
  body : String
  deriving DecidableEq

/-- The script that advances a cycle. -/
def Script.bundled : Script where
  name := bundledName
  body := bundledBody

end Carousel
