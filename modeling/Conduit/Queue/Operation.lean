import Conduit.Config.Basic
import Conduit.Status

/-!
What can be asked of a queue, and what it answers.
-/

namespace Conduit

/-- The clock that waits are measured with. A library keeps it, and all that a queue relies on
is what the library finds to be the tick that comes so many ticks after another one.
-/
structure Clock where
  after? : (tick ticks : Nat) → Option Nat

namespace Clock

/-- The last tick that fits into a word of 64 bits. -/
def lastTick : Nat := Nat.pow 2 64 - 1

/-- A clock that counts in words of 64 bits, and takes the time to come in such a word too: a
longer time loses all its full turns of the clock. A tick past the last one is none.
-/
def ofWords : Clock :=
  { after? := fun tick ticks =>
      let sum := tick + ticks % (lastTick + 1)
      if sum ≤ lastTick then some sum else none }

end Clock

/-- How long a caller is willing to wait, in ticks of the clock. -/
inductive Timeout
  | infinite
  | after (ticks : Nat)
  deriving DecidableEq, Repr

/-- The tick at which a wait that begins at `now` expires. One for which the clock has no such
tick never does.
-/
def Timeout.deadline (timeout : Timeout) (clock : Clock) (now : Nat) : Option Nat :=
  match timeout with
  | infinite => none
  | after ticks => clock.after? now ticks

/-- What never changes about a queue, so that no lock is needed to tell it. -/
inductive Property
  | capacity
  | name
  /-- The queue in diagnostic output, on one line or spread over several. -/
  | description (pretty : Bool)
  deriving DecidableEq, Repr

/-- One operation on a queue of values of type `α`. The `wait` operations wait for space or
data up to a time, the `try` operations only for the lock, and the `nonblocking` ones for
nothing at all.
-/
inductive Operation (α : Type)
  | waitPush (value : α) (timeout : Timeout)
  | tryPush (value : α)
  | nonblockingPush (value : α)
  | waitPop (timeout : Timeout)
  | tryPop
  | nonblockingPop
  /-- Removes all buffered elements at once. -/
  | drain
  /-- Ends the stream: no more pushes, while buffered elements stay. -/
  | close
  | isClosed
  | isEmpty
  | isFull
  | length
  | inspect (property : Property)

/-- What an operation ends with. -/
inductive Answer (α : Type)
  | push (result : Except (PushError α) Unit)
  | pop (result : Except PopError α)
  /-- A push that reports nothing but closure. -/
  | offered (result : Except (QueueClosed α) Unit)
  /-- A pop that reports nothing but the end of the stream. -/
  | received (result : Except (QueueClosed Unit) α)
  | drained (values : List α)
  | done
  | flag (value : Bool)
  | count (value : Nat)
  | name (label : Option String)
  | text (value : String)
  /-- The log sink failed while the operation held the lock. -/
  | sinkFailed

namespace Operation

variable {α : Type}

/-- The limit on the wait for space or data. An operation that does not wait needs none. -/
def timeout : Operation α → Timeout
  | waitPush _ timeout | waitPop timeout => timeout
  | _ => .infinite

/-- The answer of an operation that finds the lock taken and does not wait for it. -/
def busy? : Operation α → Option (Answer α)
  | nonblockingPush v => some (.push (.error (.busy v)))
  | nonblockingPop => some (.pop (.error .busy))
  | _ => none

/-- Whether an operation is answered without the lock. -/
def isInspection : Operation α → Bool
  | inspect _ => true
  | _ => false

/-- Whether the queue is closed if the operation fails halfway. Closing needs no such care,
nor do operations that change nothing.
-/
def closesOnFailure : Operation α → Bool
  | waitPush .. | tryPush _ | nonblockingPush _ | waitPop _ | tryPop | nonblockingPop
  | drain => true
  | close | isClosed | isEmpty | isFull | length | inspect _ => false

end Operation

namespace Config

/-- A queue with these settings in diagnostic output: its name and capacity, but not its
elements.
-/
def describeQueue (config : Config) (pretty : Bool) : String :=
  if pretty then
    let label := match config.label with
      | none => "None"
      | some label => "Some(\n        " ++ Text.quoted label ++ ",\n    )"
    "BoundedQueue \x7b\n    label: " ++ label ++ ",\n    capacity: "
      ++ toString config.capacity ++ ",\n    ..\n\x7d"
  else
    "BoundedQueue \x7b label: " ++ Text.quotedOption config.label ++ ", capacity: "
      ++ toString config.capacity ++ ", .. \x7d"

/-- What a queue with these settings tells without its lock. -/
def inspect {α : Type} (config : Config) : Property → Answer α
  | .capacity => .count config.capacity
  | .name => .name config.label
  | .description pretty => .text (config.describeQueue pretty)

end Config

end Conduit
