import Conduit.Endpoint
import Conduit.Queue.Create
import Conduit.Schedule

/-!
A benchmark of throughput and round-trip time. One thread sends the numbers from zero on
through a queue, and the other checks that they arrive one after the other; then each number
goes to an echo and back through a pair of queues before the next one is sent.
-/

namespace Conduit.Benchmark

-----------------------------------------------------------------------------------------
-- Settings
-----------------------------------------------------------------------------------------

/-- The settings of a run: the processors that the two threads should use, the capacity of
the queues, and how many numbers are sent.
-/
structure Settings where
  producerCpu : Nat := 0
  consumerCpu : Nat := 2
  capacity : Nat := 1024
  iterations : Nat := Nat.pow 2 20
  deriving DecidableEq, Repr

/-- The number that a text of decimal digits, with a plus sign or without, spells in 64
bits.
-/
def word? (text : String) : Option Nat :=
  let digits := match text.toList with
    | '+' :: digits => digits
    | digits => digits
  if digits.isEmpty ∨ ¬ digits.all Char.isDigit then none
  else
    let value := digits.foldl (fun n c => n * 10 + (c.toNat - '0'.toNat)) 0
    if value < Nat.pow 2 64 then some value else none

/-- Settings from variables, whatever cannot be read being left at its default. -/
def Settings.ofVariables (lookup : String → Option String) : Settings :=
  let read (name : String) (default : Nat) : Nat :=
    ((lookup name).bind word?).getD default
  let defaults : Settings := {}
  { producerCpu := read "PRODUCER_CPU" defaults.producerCpu
    consumerCpu := read "CONSUMER_CPU" defaults.consumerCpu
    capacity := read "QUEUE_CAPACITY" defaults.capacity
    iterations := read "ITERATIONS" defaults.iterations }

-----------------------------------------------------------------------------------------
-- The four threads
-----------------------------------------------------------------------------------------

/-- What must not happen to a thread. -/
inductive Failure
  /-- A number arrived out of turn. -/
  | corruption (value expected : Nat)
  /-- A pop ended with something other than a number or the end of the stream. -/
  | unexpectedStatus (status : Status)
  /-- An operation failed that must not fail. -/
  | refused
  deriving DecidableEq, Repr

/-- The state of a thread. Queue 0 leads from the first thread to the second one, and queue 1
back.
-/
inductive Role
  /-- Sends the numbers from `next` up to `stop`, and then closes the queue. -/
  | sender (next stop : Nat)
  /-- Expects this number next. -/
  | receiver (expected : Nat)
  /-- Sends the number `next` below `stop`, or else closes the queue. -/
  | requester (next stop : Nat)
  /-- Waits for the number to come back. -/
  | awaiting (next stop : Nat)
  /-- Waits for a number to send back. -/
  | echo
  | replying (value : Nat)
  /-- Has seen the end of the requests. -/
  | closingReplies
  /-- Has finished after so many numbers. -/
  | finished (count : Nat)
  | failed (failure : Failure)
  deriving DecidableEq, Repr

namespace Role

/-- The call of a method on a queue. -/
def calling (queue : Nat) (method : Method Nat) : Request Nat :=
  { queue, operation := method.operation }

/-- The call of a thread that sends the numbers below `stop` and then closes the queue. -/
def sending (next stop : Nat) : Request Nat :=
  calling 0 (if next < stop then Back.queue.push next else Back.queue.close)

def request? : Role → Option (Request Nat)
  | sender next stop | requester next stop => some (sending next stop)
  | receiver _ | echo => some (calling 0 Front.queue.waitPop)
  | awaiting .. => some (calling 1 Front.queue.valuePop)
  | replying value => some (calling 1 (Back.queue.push value))
  | closingReplies => some (calling 1 Back.queue.close)
  | finished _ | failed _ => none

/-- Goes on if a push of `value` has succeeded. -/
def afterPush (value : Nat) (next : Role) (answer : Answer Nat) : Role :=
  match (Back.queue.push value).read answer with
  | .offered (.ok ()) => next
  | _ => .failed .refused

/-- Checks that the expected number has arrived. -/
def receive (expected : Nat) (answer : Answer Nat) : Role :=
  match Front.queue.waitPop.read answer with
  | .pop (.ok value) =>
    if value = expected then .receiver (expected + 1)
    else .failed (.corruption value expected)
  | .pop (.error .closed) => .finished expected
  | .pop (.error e) => .failed (.unexpectedStatus e.status)
  | _ => .failed .refused

/-- Checks that the number that was sent has come back. -/
def compare (next stop : Nat) (answer : Answer Nat) : Role :=
  match Front.queue.valuePop.read answer with
  | .received (.ok value) =>
    if value = next then .requester (next + 1) stop else .failed (.corruption value next)
  | _ => .failed .refused

/-- Sends a number back, up to the end of the requests. -/
def answerBack (answer : Answer Nat) : Role :=
  match Front.queue.waitPop.read answer with
  | .pop (.ok value) => .replying value
  | _ => .closingReplies

def resume : Role → Answer Nat → Role
  | sender next stop, answer =>
    if next < stop then afterPush next (.sender (next + 1) stop) answer else .finished next
  | receiver expected, answer => receive expected answer
  | requester next stop, answer =>
    if next < stop then afterPush next (.awaiting next stop) answer else .finished next
  | awaiting next stop, answer => compare next stop answer
  | echo, answer => answerBack answer
  | replying value, answer => afterPush value .echo answer
  | closingReplies, _ => .finished 0
  | finished count, _ => .finished count
  | failed failure, _ => .failed failure

def program : Program Role Nat := { request?, resume }

end Role

-----------------------------------------------------------------------------------------
-- Runs
-----------------------------------------------------------------------------------------

/-- The size of a slot for a number. -/
def slotBytes : Nat := 8

/-- A world of queues with the given labels and of the given threads, if the queues can be
built.
-/
def start (settings : Settings) (labels : List String) (roles : List Role)
    : Except CreateError (World Role Nat) :=
  labels.foldlM
    (fun (w : World Role Nat) label => do
      let queue ← (Queue.labelled slotBytes settings.capacity label).result
      return (w.addQueue queue).1)
    { programs := roles }

/-- Waits in a benchmark have no end. -/
def patience : Patience := ⟨0⟩

/-- A bound on the rounds of a run: a number is on its way for some rounds at most. -/
def roundBudget (settings : Settings) : Nat := 8 * settings.iterations + 64

/-- Runs threads to their end. -/
def finish (settings : Settings) (w : World Role Nat) : World Role Nat :=
  w.run Role.program {} patience (fun _ => false) (roundBudget settings)

def throughput (settings : Settings) : Except CreateError (World Role Nat) :=
  (start settings ["throughput"] [.sender 0 settings.iterations, .receiver 0]).map
    (finish settings)

def roundTrip (settings : Settings) : Except CreateError (World Role Nat) :=
  (start settings ["rtt-request", "rtt-reply"]
      [.requester 0 settings.iterations, .echo]).map
    (finish settings)

/-- Whether all numbers of the throughput run have been sent and received. -/
def throughputSucceeds (settings : Settings) (w : World Role Nat) : Bool :=
  w.programs = [.finished settings.iterations, .finished settings.iterations]

/-- Whether all numbers of the round-trip run have come back. -/
def roundTripSucceeds (settings : Settings) (w : World Role Nat) : Bool :=
  w.programs = [.finished settings.iterations, .finished 0]

/-- What a benchmark prints before it measures anything. -/
def heading (settings : Settings) : String :=
  "sluice BoundedQueue (capacity=" ++ toString settings.capacity ++ ", iters="
    ++ toString settings.iterations ++ "):"

def throughputLine (measured : String) : String := measured ++ " ops/ms"

def roundTripLine (measured : String) : String := measured ++ " ns RTT"

/-- Numbers per millisecond, when all of them took so many nanoseconds. -/
def perMillisecond (settings : Settings) (nanoseconds : Nat) : Nat :=
  settings.iterations * 1000000 / max nanoseconds 1

/-- Nanoseconds for one round trip, when all of them took so many. -/
def perRoundTrip (settings : Settings) (nanoseconds : Nat) : Nat :=
  nanoseconds / max settings.iterations 1

/-- The exit code of a run that has failed. -/
def failureCode : Nat := 101

/-- The exit code and the printed lines, with a given text in place of each measured
number.
-/
def output (settings : Settings) (measured : String) : Nat × List String :=
  let passes (result : Except CreateError (World Role Nat))
      (succeeds : Settings → World Role Nat → Bool) : Bool :=
    match result with
    | .ok w => succeeds settings w
    | .error _ => false
  if !passes (throughput settings) throughputSucceeds then
    (failureCode, [heading settings])
  else if !passes (roundTrip settings) roundTripSucceeds then
    (failureCode, [heading settings, throughputLine measured])
  else (0, [heading settings, throughputLine measured, roundTripLine measured])

end Conduit.Benchmark
