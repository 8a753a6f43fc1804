import Conduit.Event
import Conduit.Ring.Basic

/-!
The state that a queue's lock guards, and what one stretch of work under the lock does to it.

A caller that has to wait adds itself to a count and sleeps. Whoever makes progress possible
takes one from the count, notes one pending wakeup and wakes one sleeper. A caller that wakes
up settles its own entry: it takes a pending wakeup if there is one, and otherwise nobody has
taken it from the count, so it does that itself. Closing wakes everybody.
-/

namespace Conduit

/-- The two kinds of callers that wait: producers for space, consumers for data. -/
inductive Side
  | producer
  | consumer
  deriving DecidableEq, Repr

/-- The bookkeeping about the callers of one side. -/
structure Waiters where
  /-- Those that sleep and have not been chosen to wake up. -/
  waiting : Nat := 0
  /-- Wakeups sent that no caller has taken yet. -/
  notified : Nat := 0
  deriving DecidableEq, Repr

namespace Waiters

/-- One more caller goes to sleep. -/
def park (w : Waiters) : Waiters := { w with waiting := w.waiting + 1 }

/-- Of those that sleep, `count` are chosen to wake up. -/
def notify (w : Waiters) (count : Nat) : Waiters :=
  { waiting := w.waiting - count, notified := w.notified + count }

/-- A caller that has stopped sleeping takes its entry out. -/
def settle (w : Waiters) : Waiters :=
  if 0 < w.notified then { w with notified := w.notified - 1 }
  else { w with waiting := w.waiting - 1 }

end Waiters

/-- A wakeup sent to the sleepers of one side. -/
inductive Wake
  /-- Wakes one of them, if there is any. -/
  | one (side : Side)
  | all (side : Side)
  deriving DecidableEq, Repr

/-- What the lock guards. -/
structure Guarded (α : Type) where
  ring : Ring α
  closed : Bool := false
  producers : Waiters := {}
  consumers : Waiters := {}

/-- What a stretch of work under the lock leaves behind: the new state, the wakeups and the
events it sent, in order, and its result.
-/
structure Section (α β : Type) where
  state : Guarded α
  wakes : List Wake := []
  events : List Event := []
  result : β

namespace Section

variable {α β γ : Type}

def map (f : β → γ) (s : Section α β) : Section α γ :=
  { state := s.state, wakes := s.wakes, events := s.events, result := f s.result }

/-- Goes on with `next` from the state left behind. -/
def andThen (first : Section α β) (next : Guarded α → β → Section α γ) : Section α γ :=
  let second := next first.state first.result
  { state := second.state
    wakes := first.wakes ++ second.wakes
    events := first.events ++ second.events
    result := second.result }

end Section

namespace Guarded

variable {α β : Type}

/-- The state before anything has happened. -/
def ofRing (ring : Ring α) : Guarded α := { ring }

/-- Changes nothing. -/
def keep (s : Guarded α) (result : β) : Section α β := { state := s, result }

def waiters (s : Guarded α) : Side → Waiters
  | .producer => s.producers
  | .consumer => s.consumers

def setWaiters (s : Guarded α) : Side → Waiters → Guarded α
  | .producer, w => { s with producers := w }
  | .consumer, w => { s with consumers := w }

/-- Counts one more sleeper. -/
def park (s : Guarded α) (side : Side) : Guarded α := s.setWaiters side (s.waiters side).park

/-- Takes the entry of a caller that has stopped sleeping out of the bookkeeping. -/
def settle (s : Guarded α) (side : Side) : Guarded α :=
  s.setWaiters side (s.waiters side).settle

/-- Stores a value and wakes one sleeping consumer; a full ring hands the value back and
nothing happens.
-/
def pushBack (s : Guarded α) (value : α) : Section α (Except α Unit) :=
  match s.ring.pushBack value with
  | .error value => s.keep (.error value)
  | .ok ring =>
    if 0 < s.consumers.waiting then
      { state := { s with ring, consumers := s.consumers.notify 1 }
        wakes := [.one .consumer]
        result := .ok () }
    else { state := { s with ring }, result := .ok () }

/-- Takes the oldest element and wakes one sleeping producer for the freed slot. -/
def popFront (s : Guarded α) : Section α (Option α) :=
  match s.ring.popFront? with
  | none => s.keep none
  | some (value, ring) =>
    if 0 < s.producers.waiting then
      { state := { s with ring, producers := s.producers.notify 1 }
        wakes := [.one .producer]
        result := some value }
    else { state := { s with ring }, result := some value }

/-- Takes all elements and wakes one sleeping producer for each freed slot. -/
def drain (s : Guarded α) : Section α (List α) :=
  let (values, ring) := s.ring.drain
  let count := min s.producers.waiting values.length
  { state := { s with ring, producers := s.producers.notify count }
    wakes := List.replicate count (.one .producer)
    result := values }

/-- Marks the queue closed, wakes everybody, and tells whether it was open before. -/
def close (s : Guarded α) : Section α Bool :=
  { state := { s with closed := true }
    wakes := [.all .consumer, .all .producer]
    result := !s.closed }

/-- Closes a queue that is still open although a failing thread has left its lock behind. -/
def failStop (s : Guarded α) : Section α Unit :=
  if s.closed then s.keep ()
  else
    let closing := s.close
    { closing with events := .lockPoisoned :: closing.events, result := () }

/-- What every caller does first with a lock it has just taken. -/
def recover (s : Guarded α) (poisoned : Bool) : Section α Unit :=
  if poisoned then s.failStop else s.keep ()

end Guarded

end Conduit
