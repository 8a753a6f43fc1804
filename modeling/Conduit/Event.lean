import Conduit.Text.Quoted

/-!
What a queue reports about itself: one event for its creation, at most one for its closing,
and one for every wait that expires.
-/

namespace Conduit

/-- How important an event is. -/
inductive Level
  | trace
  | debug
  | error
  deriving DecidableEq, Repr

def Level.text : Level → String
  | trace => "TRACE"
  | debug => "DEBUG"
  | error => "ERROR"

/-- Something worth reporting. -/
inductive Event
  /-- A queue was built, with this many elements in it. -/
  | created (capacity : Nat) (label : Option String) (preloaded : Nat)
  /-- An open queue was closed, with this many elements left in it. -/
  | closed (label : Option String) (buffered : Nat)
  /-- A push gave up waiting for space. -/
  | pushExpired (label : Option String)
  /-- A pop gave up waiting for data. -/
  | popExpired (label : Option String)
  /-- An open queue was found with a lock that a failing thread had left behind. -/
  | lockPoisoned
  /-- A failing thread closed the open queue that it was working on. -/
  | closedByFailure
  deriving DecidableEq, Repr

namespace Event

def level : Event → Level
  | created .. | closed .. => .debug
  | pushExpired _ | popExpired _ => .trace
  | lockPoisoned | closedByFailure => .error

def message : Event → String
  | created .. => "queue created"
  | closed .. => "queue closed"
  | pushExpired _ => "push wait expired"
  | popExpired _ => "pop wait expired"
  | lockPoisoned => "queue lock poisoned by a panicking thread, closing queue"
  | closedByFailure => "panic during queue operation, queue closed"

/-- The label of the queue, where the event tells it. -/
def label? : Event → Option String
  | created _ label _ | closed label _ | pushExpired label | popExpired label =>
    some (Text.quotedOption label)
  | lockPoisoned | closedByFailure => none

/-- The numbers that the event tells, by name. -/
def counts : Event → List (String × Nat)
  | created capacity _ preloaded => [("capacity", capacity), ("preloaded", preloaded)]
  | closed _ buffered => [("buffered", buffered)]
  | _ => []

end Event

end Conduit
