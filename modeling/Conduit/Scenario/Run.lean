import Conduit.Scenario.Step
import Conduit.Schedule

/-!
Running scenarios. After every step each thread runs on until it has finished or sleeps; what
the step itself and the threads of earlier steps have come to is part of the reply.
-/

namespace Conduit.Scenario

open Json (Value)

/-- What came of an errand. -/
inductive Result
  | created (config : Config)
  | refused (error : CreateError)
  | tracing
  /-- There is no queue of that name. -/
  | noQueue
  /-- It has not ended. -/
  | blocked
  | reported (report : Report Value)

/-- A thread that has not ended when its step was over. -/
structure Pending where
  thread : Nat
  queue : String
  command : Command

/-- An earlier step that has ended. -/
structure Woken where
  queue : String
  command : Command
  report : Report Value

/-- The state of a queue as its own queries tell it. -/
structure Snapshot where
  closed : Bool
  length : Nat
  empty : Bool
  full : Bool
  deriving DecidableEq, Repr

/-- The reply to a step. -/
structure Reply where
  result : Result
  /-- How many first elements the construction of a queue took. -/
  pulled : Option Nat := none
  /-- For a step that was to be held and has found its queue: what the errands came to, or
  none if nothing was held. -/
  held : Option (Option (List Result)) := none
  woken : List Woken
  state : List (String × Snapshot)
  log : List Event

/-- What is left of a queue at the end: how many steps were blocked on it before, and the
elements still in it.
-/
structure Remains where
  blocked : Nat
  left : List Value

/-- The end of a scenario, when all queues have been closed. -/
structure Finale where
  queues : List (String × Remains)
  woken : List Woken

/-- A scenario on its way: the world, the numbers of the named queues, the steps that have not
ended, and the threads in which the log sink fails.
-/
structure Session where
  world : World (Task Value) Value := {}
  queues : List (String × Nat) := []
  pending : List Pending := []
  failing : List Nat := []

namespace Session

/-- Nanoseconds, in which the clock ticks, in a millisecond. -/
def ticksPerMillisecond : Nat := 1000000

/-- A wait of a minute or more outlasts every scenario. -/
def patience : Patience := ⟨60000 * ticksPerMillisecond⟩

/-- A bound on the rounds after one step. -/
def roundBudget : Nat := 100000

/-- Lets every thread run on until it has finished or sleeps, or is held by the log sink or
waits for the lock of the one that is.
-/
def settle (s : Session) (held : Option Nat) : Session :=
  let sink : Sink := { held, failing := s.failing }
  { s with world := s.world.run Task.program sink patience (fun _ => false) roundBudget }

/-- The number of the queue with the given name. -/
def queue? (s : Session) (name : String) : Option Nat := s.queues.lookup name

/-- Gives a name to a queue and takes it from any other. -/
def setQueue (s : Session) (name : String) (number : Nat) : Session :=
  { s with queues := (name, number) :: s.queues.filter fun entry => entry.1 != name }

/-- What a thread has come to, if it has finished. -/
def report? (s : Session) (thread : Nat) : Option (Report Value) :=
  (s.world.programs[thread]?).bind Task.report?

/-- Builds a queue. One of the same name is replaced only if that succeeds. -/
def create (s : Session) (name : String) (construction : Construction)
    : Session × Result × Nat :=
  let creation := construction.create
  match creation.result with
  | .error error => (s, .refused error, creation.pulled)
  | .ok queue =>
    let (world, number) := (s.world.record creation.events).addQueue queue
    ({ s with world }.setQueue name number, .created queue.config, creation.pulled)

/-- Starts a thread for an order, and tells its number. There is none without the queue that
the order is for, or without the one that its command hands elements on to. Other commands
hand on nothing, and their own queue stands in for that one.
-/
def start? (s : Session) (order : Order) : Option (Session × Nat) := do
  let queue ← s.queue? order.queue
  let output ← s.queue? (order.command.output?.getD order.queue)
  let task := order.command.task order.route order.alreadyFailing queue output
  let (world, thread) := s.world.spawn task
  return (
    { s with
      world
      failing := if order.sinkFails then thread :: s.failing else s.failing },
    thread)

/-- What the thread of a step has come to. One that has not ended is remembered. -/
def conclude (s : Session) (thread : Nat) (order : Order) : Session × Result :=
  match s.report? thread with
  | some report => (s, .reported report)
  | none =>
    let pending : Pending := { thread, queue := order.queue, command := order.command }
    ({ s with pending := s.pending ++ [pending] }, .blocked)

/-- Carries out an errand as far as it can go while the given thread is held, and tells what it
came to and how many first elements it took.
-/
def carryOut (s : Session) (held : Option Nat) : Errand → Session × Result × Option Nat
  | .create name construction =>
    let (s, result, pulled) := s.create name construction
    (s, result, some pulled)
  | .initTracing => (s, .tracing, none)
  | .operate order =>
    match s.start? order with
    | none => (s, .noQueue, none)
    | some (s, thread) =>
      let (s, result) := (s.settle held).conclude thread order
      (s, result, none)

/-- Carries out errands one after the other. -/
def carryOutAll (s : Session) (held : Option Nat) : List Errand → Session × List Result
  | [] => (s, [])
  | errand :: rest =>
    let (s, result, _) := s.carryOut held errand
    let (s, results) := s.carryOutAll held rest
    (s, result :: results)

/-- Carries out an order whose first event holds it up. The errands are done while it holds the
lock, and it goes on when they have come as far as they can. Without a queue there is nothing
to hold.
-/
def carryOutHeld (s : Session) (order : Order) (errands : List Errand)
    : Session × Result × Option (Option (List Result)) :=
  match s.start? order with
  | none => (s, .noQueue, none)
  | some (s, thread) =>
    let s := s.settle (some thread)
    if s.world.isHeld Task.program thread then
      let (s, results) := s.carryOutAll (some thread) errands
      let (s, result) := (s.settle none).conclude thread order
      (s, result, some (some results))
    else
      let (s, result) := s.conclude thread order
      (s, result, some none)

/-- Takes the threads that have finished out of the pending ones. -/
def collect (s : Session) : Session × List Woken :=
  let woken := s.pending.filterMap fun pending =>
    (s.report? pending.thread).map fun report =>
      { queue := pending.queue, command := pending.command, report : Woken }
  ({ s with pending := s.pending.filter fun pending => (s.report? pending.thread).isNone },
    woken)

def snapshot (queue : Queue Value) : Snapshot :=
  { closed := queue.state.closed
    length := queue.state.ring.length
    empty := queue.state.ring.isEmpty
    full := queue.state.ring.isFull }

/-- The states of all named queues. -/
def snapshots (s : Session) : List (String × Snapshot) :=
  s.queues.filterMap fun (name, number) =>
    (s.world.queues[number]?).map fun queue => (name, snapshot queue)

/-- Completes the reply to a step, and starts the log anew. -/
def reply (s : Session) (result : Result) (pulled : Option Nat)
    (held : Option (Option (List Result))) : Session × Reply :=
  let (s, woken) := s.collect
  ({ s with world := { s.world with log := [] } },
    { result, pulled, held, woken, state := s.snapshots, log := s.world.log.reverse })

/-- One step. -/
def step (s : Session) : Step → Session × Reply
  | .plain errand =>
    let (s, result, pulled) := s.carryOut none errand
    s.reply result pulled none
  | .held order errands =>
    let (s, result, held) := s.carryOutHeld order errands
    s.reply result none held

/-- All steps. -/
def steps (s : Session) : List Step → Session × List Reply
  | [] => (s, [])
  | next :: rest =>
    let (s, reply) := s.step next
    let (s, replies) := s.steps rest
    (s, reply :: replies)

/-- Closes the queues with the given names, one after the other. -/
def closeAll (s : Session) : List String → Session
  | [] => s
  | name :: rest =>
    let (s, _) := s.carryOut none (.operate { queue := name, command := .close })
    s.closeAll rest

/-- Closes all queues in the order of their names and tells what is left. -/
def finale (s : Session) : Finale :=
  let names := (s.queues.map (·.1)).mergeSort fun a b => decide (a ≤ b)
  let closed := s.closeAll names
  let remains (name : String) : Option (String × Remains) := do
    let queue ← closed.world.queues[← closed.queue? name]?
    let blocked := (s.pending.filter fun pending => pending.queue == name).length
    return (name, { blocked, left := queue.state.ring.toList })
  { queues := names.filterMap remains, woken := closed.collect.2 }

end Session

/-- Runs a whole scenario. -/
def run (steps : List Step) : List Reply × Finale :=
  let (session, replies) := ({} : Session).steps steps
  (replies, session.finale)

end Conduit.Scenario
