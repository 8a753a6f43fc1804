import Conduit.Benchmark

/-!
The command line of the benchmark. Its settings come from the environment.
-/

namespace Conduit.Benchmark

/-- Prints a line at once. -/
def printLine (line : String) : IO Unit := do
  IO.println line
  (← IO.getStdout).flush

/-- Runs a part of the benchmark and gives the nanoseconds it took, or nothing if it failed. -/
def timed (settings : Settings)
    (run : Settings → Except CreateError (World Role Nat))
    (succeeds : Settings → World Role Nat → Bool) : IO (Option Nat) := do
  let before ← IO.monoNanosNow
  match run settings with
  | .error _ => return none
  | .ok w =>
    if succeeds settings w then
      let after ← IO.monoNanosNow
      return some (after - before)
    else return none

/-- Reads one variable of the environment for each name. -/
def environment (names : List String) : IO (List (String × Option String)) :=
  names.mapM fun name => return (name, ← IO.getEnv name)

end Conduit.Benchmark

open Conduit.Benchmark in
/-- Runs the two benchmarks and prints what they measured. -/
def main : IO UInt32 := do
  let values ← environment ["PRODUCER_CPU", "CONSUMER_CPU", "QUEUE_CAPACITY", "ITERATIONS"]
  let settings := Settings.ofVariables fun name => (values.lookup name).join
  printLine (heading settings)
  match ← timed settings throughput throughputSucceeds with
  | none => return failureCode.toUInt32
  | some elapsed =>
    printLine (throughputLine (toString (perMillisecond settings elapsed)))
    match ← timed settings roundTrip roundTripSucceeds with
    | none => return failureCode.toUInt32
    | some elapsed =>
      printLine (roundTripLine (toString (perRoundTrip settings elapsed)))
      return 0
