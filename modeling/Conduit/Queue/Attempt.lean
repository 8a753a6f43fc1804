import Conduit.Queue.Guarded
import Conduit.Queue.Operation

/-!
What each operation does between taking the lock and giving it back. An operation that waits
makes one attempt each time it has the lock, and either ends with an answer or goes to sleep.
A closed queue refuses every push, whether full or not, but gives out its elements first.
-/

namespace Conduit

/-- How a stretch of work under the lock ends. -/
inductive Outcome (α : Type)
  | answered (answer : Answer α)
  /-- The caller goes to sleep, for at most the time that remains to it. -/
  | waits (side : Side) (remaining : Option Nat)

/-- Whether a deadline has passed. -/
def expired (deadline : Option Nat) (now : Nat) : Bool := deadline.any (· ≤ now)

/-- The time left until a deadline. -/
def remaining (deadline : Option Nat) (now : Nat) : Option Nat := deadline.map (· - now)

namespace Guarded

variable {α : Type}

/-- Pushes if there is room now. -/
def offer (s : Guarded α) (value : α) : Section α (Except (PushError α) Unit) :=
  if s.closed then s.keep (.error (.closed value))
  else (s.pushBack value).map (Except.mapError .full)

/-- Pops if there is data now. -/
def take (s : Guarded α) : Section α (Except PopError α) :=
  let popped := s.popFront
  popped.map fun
    | some value => .ok value
    | none => .error (if s.closed then .closed else .empty)

/-- One attempt of a push that waits for space. -/
def pushUntil (s : Guarded α) (label : Option String) (deadline : Option Nat) (now : Nat)
    (value : α) : Section α (Outcome α) :=
  if s.closed then s.keep (.answered (.push (.error (.closed value))))
  else
    let pushed := s.pushBack value
    match pushed.result with
    | .ok () => pushed.map fun _ => .answered (.push (.ok ()))
    | .error value =>
      if expired deadline now then
        { state := s
          events := [.pushExpired label]
          result := .answered (.push (.error (.timedOut value))) }
      else (s.park .producer).keep (.waits .producer (remaining deadline now))

/-- One attempt of a pop that waits for data. -/
def popUntil (s : Guarded α) (label : Option String) (deadline : Option Nat) (now : Nat)
    : Section α (Outcome α) :=
  let popped := s.popFront
  match popped.result with
  | some value => popped.map fun _ => .answered (.pop (.ok value))
  | none =>
    if s.closed then s.keep (.answered (.pop (.error .closed)))
    else if expired deadline now then
      { state := s
        events := [.popExpired label]
        result := .answered (.pop (.error .timedOut)) }
    else (s.park .consumer).keep (.waits .consumer (remaining deadline now))

/-- Closes the queue and reports it if it was open. -/
def closeReporting (s : Guarded α) (label : Option String) : Section α (Outcome α) :=
  s.close.andThen fun s wasOpen =>
    { state := s
      events := if wasOpen then [.closed label s.ring.length] else []
      result := .answered .done }

/-- What a failing caller does to a queue that its operation has to close. -/
def closeOnFailure (s : Guarded α) : Section α (Outcome α) :=
  s.close.andThen fun s wasOpen =>
    { state := s
      events := if wasOpen then [.closedByFailure] else []
      result := .answered .sinkFailed }

/-- One attempt of an operation on a queue with the given settings. -/
def attempt (s : Guarded α) (config : Config) (deadline : Option Nat) (now : Nat)
    : Operation α → Section α (Outcome α)
  | .waitPush value _ => s.pushUntil config.label deadline now value
  | .tryPush value | .nonblockingPush value =>
    (s.offer value).map fun result => .answered (.push result)
  | .waitPop _ => s.popUntil config.label deadline now
  | .tryPop | .nonblockingPop => s.take.map fun result => .answered (.pop result)
  | .drain => s.drain.map fun values => .answered (.drained values)
  | .close => s.closeReporting config.label
  | .isClosed => s.keep (.answered (.flag s.closed))
  | .isEmpty => s.keep (.answered (.flag s.ring.isEmpty))
  | .isFull => s.keep (.answered (.flag s.ring.isFull))
  | .length => s.keep (.answered (.count s.ring.length))
  | .inspect property => s.keep (.answered (config.inspect property))

end Guarded

end Conduit
