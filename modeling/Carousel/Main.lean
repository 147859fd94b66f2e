/-
# The stress program

Reads the command line and the environment, and runs the two phases of a stress
run one after the other: advancing a cycle, and minting tokens. The workers of a
phase take turns. The exit code is 2 for a command line that cannot be read, and
1 for a run that is refused or does not pass.
-/

import Carousel.Stress.CommandLine
import Carousel.Stress.CyclePhase
import Carousel.Stress.TokenPhase
import Carousel.Token.Plan

namespace Carousel

namespace Stress

/-- What is printed for a user who asks how to call the program. -/
def usage : String :=
  "Usage: cyclid-stress [OPTIONS]\n" ++
    String.join (Setting.all.map fun setting =>
      "  --" ++ setting.option ++ " <NUMBER>  [env: " ++
        setting.variableName ++ "]\n") ++
    "  -h, --help\n  -V, --version"

/-- What is printed for a user who asks for the version. -/
def version : String := "cyclid-stress 0.3.2"

/-- The devices of a run: a clock that starts in 2025 and moves on by one millisecond at
each reading, undisturbed sleeps, and no nonce but zero. -/
def devicePlan : DevicePlan where
  clock := .ticking 1735689600000
  naps := #[]
  nonces := #[]
  bedding := .plain

/-- The outcome of both phases: a line for each that passed, and the complaint
of the one that did not. -/
def report (plan : Plan) : List String × Option String :=
  let clients := plan.threads.toNat
  let advancing := CyclePhase.run plan
    (Pool.takingTurns clients plan.calls.toNat)
  match advancing with
  | .panicked message => ([], some message)
  | .returned (.error complaint) => ([], some complaint.message)
  | .returned (.ok advances) =>
    let passed :=
      "cycle stress passed: " ++ Numeral.render advances.toNat ++ " advances"
    let minting := TokenPhase.run devicePlan.devices devicePlan.clock.patience
      plan (Pool.takingTurns clients plan.tokensPerThread.toNat)
    match minting with
    | none => ([passed], some "the clock stands still")
    | some (.panicked message) => ([passed], some message)
    | some (.returned (.error complaint)) => ([passed], some complaint.message)
    | some (.returned (.ok tokens)) =>
      ([passed,
        "token stress passed: " ++ Numeral.render tokens.ops ++ " tokens, " ++
          Numeral.render tokens.outOfOrder ++ " out of order"], none)

/-- The environment variables that are set, of those that settings have. -/
def readEnvironment : IO (List (String × String)) := do
  let found ← Setting.all.mapM fun setting => do
    let value ← IO.getEnv setting.variableName
    return value.map fun text => (setting.variableName, text)
  return found.filterMap id

/-- Carry out a plan and print what comes of it. -/
def runPlan (plan : Plan) : IO UInt32 := do
  let (passed, complaint) := report plan
  for line in passed do
    IO.println line
  match complaint with
  | none => return 0
  | some message =>
    IO.eprintln ("Error: " ++ message)
    return 1

end Stress

end Carousel

open Carousel Carousel.Stress in
/-- Run the stress program. Without a number of threads it uses one. -/
def main (arguments : List String) : IO UInt32 := do
  let environment ← readEnvironment
  match Arguments.ofCommandLine 1 arguments environment with
  | .error .helpRequested =>
    IO.println usage
    return 0
  | .error .versionRequested =>
    IO.println version
    return 0
  | .error flaw =>
    IO.eprintln ("error: " ++ flaw.message)
    return 2
  | .ok given =>
    match Plan.ofArguments given with
    | .error flaw =>
      IO.eprintln ("Error: " ++ flaw.message)
      return 1
    | .ok plan => runPlan plan
