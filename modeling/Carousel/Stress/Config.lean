/-
# What a stress run is asked to do

The arguments of a stress run are five numbers. They are turned into a plan that
shares the tokens out evenly among the threads, the remainder being dropped, and
in which no flushing is its own case rather than a zero. Arguments that make no
sense are refused with the first rule that they break.
-/

import Carousel.Numeral
import Carousel.Word

namespace Carousel

namespace Stress

/-- The numbers that a user gives. -/
structure Arguments where
  threads : UInt64
  calls : UInt64
  elements : UInt64
  tokens : UInt64
  flushEvery : UInt64
  deriving DecidableEq

/-- What a stress run does. -/
structure Plan where
  threads : UInt64
  calls : UInt64
  elements : UInt64
  tokensPerThread : UInt64
  flushEvery : Option UInt64
  deriving DecidableEq

/-- The rule that arguments break. -/
inductive PlanFlaw
  | noThreads
  | noElements
  | tooManyCalls (threads calls : UInt64)
  | tooFewTokens (tokens threads : UInt64)
  deriving DecidableEq

/-- A number in brackets. -/
def bracketed (number : UInt64) : String :=
  "(" ++ Numeral.render number.toNat ++ ")"

/-- The wording of a broken rule. -/
def PlanFlaw.message : PlanFlaw → String
  | .noThreads => "CYCLID_THREADS must be greater than 0"
  | .noElements => "CYCLID_ELEMENTS must be greater than 0"
  | .tooManyCalls threads calls =>
    "CYCLID_THREADS " ++ bracketed threads ++ " x CYCLID_CALLS " ++
      bracketed calls ++ " overflows"
  | .tooFewTokens tokens threads =>
    "CYCLID_TOKENS " ++ bracketed tokens ++
      " must be at least CYCLID_THREADS " ++ bracketed threads

namespace Plan

/-- The plan for some arguments. -/
def ofArguments (arguments : Arguments) : Except PlanFlaw Plan :=
  if arguments.threads = 0 then .error .noThreads
  else if arguments.elements = 0 then .error .noElements
  else
    match Word.mul arguments.threads arguments.calls with
    | .panicked _ => .error (.tooManyCalls arguments.threads arguments.calls)
    | .returned _ =>
      if arguments.tokens < arguments.threads then
        .error (.tooFewTokens arguments.tokens arguments.threads)
      else
        .ok
          { threads := arguments.threads
            calls := arguments.calls
            elements := arguments.elements
            tokensPerThread := arguments.tokens / arguments.threads
            flushEvery :=
              if 0 < arguments.flushEvery then some arguments.flushEvery
              else none }

/-- The number of advances of all threads together. -/
def totalCalls (plan : Plan) : Ending UInt64 :=
  Word.mul plan.threads plan.calls

/-- The number of tokens of all threads together. -/
def totalTokens (plan : Plan) : Ending UInt64 :=
  Word.mul plan.threads plan.tokensPerThread

end Plan

end Stress

end Carousel
