import Conduit.Queue.Attempt

/-!
A queue together with the calls in progress on it, and its steps. Every stretch of work under
the lock takes effect at the moment the lock is taken; the caller then holds the lock until a
later step gives it back, which is where a log sink can keep it waiting or fail. Which caller
moves next, which sleepers a wakeup reaches, and when a sleeper stops sleeping of its own
accord is decided outside: by the thread and the move that a step is given.
-/

namespace Conduit

/-- A call that has not ended: what is asked, when the wait for it expires, and whether its
thread was already failing for some other reason when it began.
-/
structure Call (α : Type) where
  operation : Operation α
  deadline : Option Nat
  alreadyFailing : Bool

/-- Where a thread is with respect to one queue. -/
inductive Phase (α : Type)
  /-- It has no call in progress. -/
  | idle
  /-- It has called and not yet got the lock. -/
  | arrived (call : Call α)
  /-- It holds the lock, and this is how its work ends. If it reports an event before it
  gives the lock back, the log sink can fail there. -/
  | inside (call : Call α) (outcome : Outcome α) (reporting : Bool)
  /-- It sleeps until it is woken. -/
  | parked (side : Side) (call : Call α)
  /-- It has stopped sleeping and not yet got the lock back. -/
  | woken (side : Side) (call : Call α)
  /-- It holds a lock that a failing thread has left behind, and the log sink is about to fail
  in its report of that. It may come from a sleep, whose entry it has not taken out. -/
  | stumbling (sleptOn : Option Side) (call : Call α)
  /-- The log sink has failed under it, and it has yet to close the queue. -/
  | failing (call : Call α)

namespace Phase

variable {α : Type}

/-- Whether the thread has no call in progress or sleeps. -/
def rests : Phase α → Bool
  | idle | parked .. => true
  | _ => false

/-- Whether the thread sleeps on the given side. -/
def isParked (side : Side) : Phase α → Bool
  | parked s _ => s = side
  | _ => false

/-- Ends the sleep of a thread. -/
def wake : Phase α → Phase α
  | parked side call => woken side call
  | phase => phase

end Phase

/-- A queue of values of type `α`: its settings, the clock that its callers wait by, the state
under its lock, whether a failing thread has poisoned the lock, the thread that holds the
lock, and where each thread is.
-/
structure Queue (α : Type) where
  config : Config
  clock : Clock := .ofWords
  state : Guarded α
  poisoned : Bool := false
  holder : Option Nat := none
  phases : List (Phase α) := []

/-- What a thread does next at a queue. -/
inductive Move (α : Type)
  /-- It calls an operation. -/
  | call (operation : Operation α) (alreadyFailing : Bool)
  /-- It takes the lock, if it needs it, and does its work. The wakeups that it sends reach
  the threads named here first. -/
  | enter (preferred : List Nat)
  /-- It takes a lock that a failing thread has left behind, and the log sink is about to fail
  in its report of that. -/
  | stumble
  /-- It gives the lock back. -/
  | leave
  /-- The log sink fails while it holds the lock. -/
  | fail
  /-- It stops sleeping although nobody has woken it. -/
  | stir

/-- What a step leads to: the queue after it, the events it reported, and the answer if it
ended a call.
-/
structure Progress (α : Type) where
  queue : Queue α
  events : List Event := []
  answer : Option (Answer α) := none

/-- Whether a failure began between two looks at a thread: it was not failing at the first
one and is at the second.
-/
def failureBegan (before after : Bool) : Bool := !before && after

namespace Queue

variable {α : Type}

def phase? (q : Queue α) (thread : Nat) : Option (Phase α) := q.phases[thread]?

def setPhase (q : Queue α) (thread : Nat) (phase : Phase α) : Queue α :=
  { q with phases := q.phases.set thread phase }

/-- Whether a thread sleeps on the given side. -/
def sleeps (phases : List (Phase α)) (side : Side) (thread : Nat) : Bool :=
  (phases[thread]?).any (Phase.isParked side)

/-- The sleeper that a wakeup of one thread reaches: the first of the preferred ones that
sleeps, and if there is none the first of all.
-/
def wakeTarget? (phases : List (Phase α)) (preferred : List Nat) (side : Side) : Option Nat :=
  (preferred ++ List.range phases.length).find? (sleeps phases side)

/-- Delivers one wakeup. Without a sleeper it is lost. -/
def deliver (preferred : List Nat) (phases : List (Phase α)) : Wake → List (Phase α)
  | .one side =>
    match wakeTarget? phases preferred side with
    | some thread => phases.modify thread Phase.wake
    | none => phases
  | .all side =>
    phases.map fun phase => if phase.isParked side then phase.wake else phase

/-- Whether the next thread to take the lock has to close the queue for one that failed. -/
def alarmed (q : Queue α) : Bool := q.poisoned && !q.state.closed

/-- The work that a thread does under the lock: it sees to a poisoned lock first, and takes
its entry out of the bookkeeping if it comes from a sleep.
-/
def work (q : Queue α) (now : Nat) (call : Call α) (sleptOn : Option Side)
    : Section α (Outcome α) :=
  (q.state.recover q.poisoned).andThen fun s () =>
    let s := match sleptOn with
      | none => s
      | some side => s.settle side
    s.attempt q.config call.deadline now call.operation

/-- The work of a thread whose operation has failed. -/
def failureWork (q : Queue α) : Section α (Outcome α) :=
  (q.state.recover q.poisoned).andThen fun s () => s.closeOnFailure

/-- Whether the sink can fail in what the work itself reports. Where it fails in the report of
a poisoned lock, nothing has been done yet: the thread has stumbled instead of working.
-/
def canFail (events : List Event) : Bool := events.any fun event => event.level != .error

/-- A thread takes the free lock and does its work. -/
def enterWith (q : Queue α) (thread : Nat) (call : Call α) (preferred : List Nat)
    (done : Section α (Outcome α)) : Progress α :=
  { queue :=
      { q with
        state := done.state
        holder := some thread
        phases :=
          (done.wakes.foldl (deliver preferred) q.phases).set thread
            (.inside call done.result (canFail done.events)) }
    events := done.events }

/-- A thread gives the lock back and its call ends, unless a failure has begun since the call
did: that poisons the lock, and the thread may still have to close the queue.
-/
def finish (q : Queue α) (thread : Nat) (call : Call α) (answer : Answer α) (failing : Bool)
    : Progress α :=
  let failed := failureBegan call.alreadyFailing failing
  let released := { q with holder := none, poisoned := q.poisoned || failed }
  if failed && call.operation.closesOnFailure then
    { queue := released.setPhase thread (.failing call) }
  else { queue := released.setPhase thread .idle, answer := some answer }

/-- A thread takes the free lock, and is about to fail in its report of a poisoned lock. -/
def stumbleWith (q : Queue α) (thread : Nat) (sleptOn : Option Side) (call : Call α)
    : Progress α :=
  { queue := { q with holder := some thread }.setPhase thread (.stumbling sleptOn call)
    events := [.lockPoisoned] }

/-- A thread begins a call. The time at which its wait expires is fixed here. -/
def begin (q : Queue α) (now thread : Nat) (operation : Operation α) (alreadyFailing : Bool)
    : Option (Progress α) :=
  match q.phase? thread with
  | some .idle =>
    let call := { operation, deadline := operation.timeout.deadline q.clock now, alreadyFailing }
    some { queue := q.setPhase thread (.arrived call) }
  | _ => none

/-- A thread that has called and finds the lock free, or needs no lock, or does not wait for
one.
-/
def enterArrived (q : Queue α) (now thread : Nat) (preferred : List Nat) (call : Call α)
    : Option (Progress α) :=
  let answered (answer : Answer α) : Progress α :=
    { queue := q.setPhase thread .idle, answer := some answer }
  match call.operation with
  | .inspect property => some (answered (q.config.inspect property))
  | operation =>
    match q.holder with
    | none => some (q.enterWith thread call preferred (q.work now call none))
    | some _ => operation.busy?.map answered

/-- A thread takes the lock, if it can. -/
def enter (q : Queue α) (now thread : Nat) (preferred : List Nat) : Option (Progress α) :=
  match q.phase? thread with
  | some (.arrived call) => q.enterArrived now thread preferred call
  | some (.woken side call) =>
    if q.holder.isSome then none
    else some (q.enterWith thread call preferred (q.work now call (some side)))
  | some (.failing call) =>
    if q.holder.isSome then none
    else
      some (q.enterWith thread { call with alreadyFailing := true } preferred q.failureWork)
  | _ => none

/-- A thread finds an open queue with a lock that a failing thread has left behind, and the
sink is about to fail in its report of that. One that sees to a failure of its own has no such
step: a second failure then ends the whole program.
-/
def stumble (q : Queue α) (thread : Nat) : Option (Progress α) :=
  if q.alarmed && q.holder.isNone then
    match q.phase? thread with
    | some (.arrived call) =>
      if call.operation.isInspection then none else some (q.stumbleWith thread none call)
    | some (.woken side call) => some (q.stumbleWith thread (some side) call)
    | _ => none
  else none

/-- A thread gives the lock back, to end its call or to sleep. -/
def leave (q : Queue α) (thread : Nat) : Option (Progress α) :=
  match q.phase? thread with
  | some (.inside call (.answered answer) _) =>
    some (q.finish thread call answer call.alreadyFailing)
  | some (.inside call (.waits side _) _) =>
    some { queue := { q with holder := none }.setPhase thread (.parked side call) }
  | _ => none

/-- The sink fails under a thread that reports an event. One that was failing before gets the
failure as its answer, as it does when a destructor catches it.
-/
def fail (q : Queue α) (thread : Nat) : Option (Progress α) :=
  match q.phase? thread with
  | some (.inside call _ true) | some (.stumbling _ call) =>
    some (q.finish thread call .sinkFailed true)
  | _ => none

/-- A thread stops sleeping without having been woken: its time is up, or for no reason. -/
def stir (q : Queue α) (thread : Nat) : Option (Progress α) :=
  match q.phase? thread with
  | some (.parked side call) => some { queue := q.setPhase thread (.woken side call) }
  | _ => none

/-- One step of one thread at tick `now`, if the thread can make that move. -/
def step? (q : Queue α) (now thread : Nat) : Move α → Option (Progress α)
  | .call operation alreadyFailing => q.begin now thread operation alreadyFailing
  | .enter preferred => q.enter now thread preferred
  | .stumble => q.stumble thread
  | .leave => q.leave thread
  | .fail => q.fail thread
  | .stir => q.stir thread

/-- Makes room for one more thread. -/
def makeRoom (q : Queue α) : Queue α := { q with phases := q.phases ++ [.idle] }

end Queue

end Conduit
