import Conduit.World

/-!
Running a world: threads take turns in the order of their numbers, sleepers are woken in that
order too, and time passes only when nobody can move. Every step is one of `World.step?`.
-/

namespace Conduit

/-- How the log sink treats the events that threads report under a lock: which thread it keeps
waiting there, and with it the lock, and in which threads it fails. It records all other
events.
-/
structure Sink where
  held : Option Nat := none
  failing : List Nat := []
  deriving DecidableEq, Repr

/-- Waits that were asked for with this many ticks or more are not sat out. -/
structure Patience where
  ticks : Nat

/-- What a thread does next, if it does not have to be woken first. Nobody stumbles, since a
thread that fails sees to the queue within its turn.
-/
def nextAction? {α : Type} (sink : Sink) (thread : Nat) : Phase α → Option Action
  | .idle => some .begin
  | .arrived _ | .woken .. | .failing _ => some (.enter [])
  | .inside _ _ false => some .leave
  | .inside _ _ true =>
    if sink.held = some thread then none
    else if sink.failing.contains thread then some .fail
    else some .leave
  | .stumbling .. => some .fail
  | .parked .. => none

namespace World

variable {σ α : Type}

/-- The next step of a thread, if it can make one. -/
def advance? (p : Program σ α) (sink : Sink) (w : World σ α) (thread : Nat)
    : Option (World σ α) :=
  w.stepBy? p thread (nextAction? sink thread)

/-- Whether a thread is between two calls or asleep, so that its turn is over. -/
def rests (w : World σ α) (thread : Nat) : Bool :=
  w.queues.all fun queue => (queue.phase? thread).all Phase.rests

/-- Steps of one thread until it rests or has to wait. -/
def stepsOf (p : Program σ α) (sink : Sink) (thread : Nat)
    : (budget : Nat) → World σ α → World σ α
  | 0, w => w
  | budget + 1, w =>
    match w.advance? p sink thread with
    | none => w
    | some w => if w.rests thread then w else stepsOf p sink thread budget w

/-- One turn of a thread, if it can move: a call from its beginning, or from the end of a
sleep, to its end or the next sleep. No turn takes more than five steps.
-/
def turn? (p : Program σ α) (sink : Sink) (w : World σ α) (thread : Nat)
    : Option (World σ α) :=
  (w.advance? p sink thread).map fun w =>
    if w.rests thread then w else stepsOf p sink thread 4 w

/-- One turn of each thread, and whether any of them moved. -/
def round (p : Program σ α) (sink : Sink) (w : World σ α) : World σ α × Bool :=
  (List.range w.programs.length).foldl
    (fun (w, moved) thread =>
      match w.turn? p sink thread with
      | some w => (w, true)
      | none => (w, moved))
    (w, false)

/-- The time at which a sleeper gives up, if it sleeps only for a while. -/
def expiry? (patience : Patience) : Phase α → Option Nat
  | .parked _ call =>
    match call.operation.timeout with
    | .after ticks => if ticks < patience.ticks then call.deadline else none
    | .infinite => none
  | _ => none

/-- The sleeper that gives up first, and when. -/
def nextExpiry? (p : Program σ α) (patience : Patience) (w : World σ α)
    : Option (Nat × Nat) :=
  (List.range w.programs.length).foldl
    (fun best thread =>
      match (w.phase? p thread).bind (expiry? patience) with
      | none => best
      | some tick =>
        match best with
        | none => some (thread, tick)
        | some (_, least) => if tick < least then some (thread, tick) else best)
    none

/-- Lets the sleeper that gives up first do so. -/
def expire? (p : Program σ α) (patience : Patience) (w : World σ α)
    : Option (World σ α) := do
  let (thread, tick) ← w.nextExpiry? p patience
  (w.wait tick).step? p thread .stir

/-- Rounds until nobody can move and nobody's patience can run out, or until `stop` holds
after a round. The budget bounds their number, since programs can run forever.
-/
def run (p : Program σ α) (sink : Sink) (patience : Patience) (stop : World σ α → Bool)
    : (budget : Nat) → World σ α → World σ α
  | 0, w => w
  | budget + 1, w =>
    if stop w then w
    else
      let (w, moved) := w.round p sink
      if moved then run p sink patience stop budget w
      else
        match w.expire? p patience with
        | some w => run p sink patience stop budget w
        | none => w

/-- Whether a thread is held by the sink while it holds a lock. -/
def isHeld (p : Program σ α) (w : World σ α) (thread : Nat) : Bool :=
  match w.phase? p thread with
  | some (.inside _ _ true) => true
  | _ => false

end World

end Conduit
