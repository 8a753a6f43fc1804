import Conduit.Queue.Basic

/-!
Several queues and the programs that use them, one program for each thread. A thread makes
one call at a time, and the answer decides how its program goes on.
-/

namespace Conduit

/-- A call that a program makes next: which queue, what operation, and whether the thread is
already failing for some other reason.
-/
structure Request (α : Type) where
  queue : Nat
  operation : Operation α
  alreadyFailing : Bool := false

/-- What programs with states of type `σ` do: the next call, if there is one, and how an
answer changes the state.
-/
structure Program (σ α : Type) where
  request? : σ → Option (Request α)
  resume : σ → Answer α → σ

/-- Queues and programs at one moment, and the events reported so far, the newest first. -/
structure World (σ α : Type) where
  now : Nat := 0
  queues : List (Queue α) := []
  programs : List σ := []
  log : List Event := []

/-- What a thread does next. The call that it begins is up to its program. -/
inductive Action
  | begin
  | enter (preferred : List Nat)
  | stumble
  | leave
  | fail
  | stir
  deriving DecidableEq, Repr

/-- An action of a thread that makes the given request. -/
def Action.move {α : Type} (request : Request α) : Action → Move α
  | begin => .call request.operation request.alreadyFailing
  | enter preferred => .enter preferred
  | stumble => .stumble
  | leave => .leave
  | fail => .fail
  | stir => .stir

namespace World

variable {σ α : Type}

/-- The call that a thread is making or makes next. -/
def request? (p : Program σ α) (w : World σ α) (thread : Nat) : Option (Request α) :=
  (w.programs[thread]?).bind p.request?

/-- One step of one thread, whose action is chosen by where it is at the queue that it calls.
There is none if nothing is chosen or the thread cannot act in that way.
-/
def stepBy? (p : Program σ α) (w : World σ α) (thread : Nat)
    (choose : Phase α → Option Action) : Option (World σ α) := do
  let program ← w.programs[thread]?
  let request ← p.request? program
  let queue ← w.queues[request.queue]?
  let action ← choose (← queue.phase? thread)
  let progress ← queue.step? w.now thread (action.move request)
  return {
    w with
    queues := w.queues.set request.queue progress.queue
    programs := match progress.answer with
      | some answer => w.programs.set thread (p.resume program answer)
      | none => w.programs
    log := progress.events.reverse ++ w.log }

/-- One step of one thread, if it can act in that way. -/
def step? (p : Program σ α) (w : World σ α) (thread : Nat) (action : Action)
    : Option (World σ α) :=
  w.stepBy? p thread fun _ => some action

/-- Lets time pass until the given tick, unless that is over. -/
def wait (w : World σ α) (tick : Nat) : World σ α := { w with now := max w.now tick }

/-- Adds a queue that has room for every thread, and tells its number. -/
def addQueue (w : World σ α) (queue : Queue α) : World σ α × Nat :=
  let queue := { queue with phases := w.programs.map fun _ => .idle }
  ({ w with queues := w.queues ++ [queue] }, w.queues.length)

/-- Adds a thread, and tells its number. -/
def spawn (w : World σ α) (program : σ) : World σ α × Nat :=
  ({ w with queues := w.queues.map Queue.makeRoom, programs := w.programs ++ [program] },
    w.programs.length)

/-- Records events that were reported elsewhere. -/
def record (w : World σ α) (events : List Event) : World σ α :=
  { w with log := events.reverse ++ w.log }

/-- Where a thread is at the queue that it calls. -/
def phase? (p : Program σ α) (w : World σ α) (thread : Nat) : Option (Phase α) := do
  let request ← w.request? p thread
  let queue ← w.queues[request.queue]?
  queue.phase? thread

end World

end Conduit
