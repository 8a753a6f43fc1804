import Mathlib.Algebra.BigOperators.Ring.Finset
import Conduit.Proofs.Queue.Entries

/-! The counts of sleepers and of pending wakeups against the history of the threads.
A thread owes an entry from the moment it joins the sleepers until it settles. It settles in
its first work after the sleep, so that nobody owes an entry who neither sleeps nor is on the
way back, unless the log sink has failed under it in the report of a poisoned lock: that comes
before it settles, and its entry stays in the counts for good.
-/

namespace Conduit

variable {α : Type}

namespace Turn

/-- Whether the thread of a turn joins the sleepers of a side. -/
def joins (turn : Turn α) (side : Side) : Bool :=
  match turn.move, turn.progress.queue.phase? turn.thread with
  | .enter _, some (.inside _ outcome _) => outcome.isWait side
  | _, _ => false

/-- Whether the thread of a turn settles: it works under the lock and comes from a sleep on the
side of the queue that the turn has met.
-/
def settlesAt (turn : Turn α) (met : Queue α) (side : Side) : Bool :=
  match turn.move with
  | .enter _ => (met.phase? turn.thread).any (Phase.isWoken side)
  | _ => false

end Turn

namespace Queue

-----------------------------------------------------------------------------------------
-- Who owes an entry
-----------------------------------------------------------------------------------------

/-- Whether a thread owes an entry of a side after a turn, by whether it has owed one before.
-/
def owesAfter (thread : Nat) (side : Side) (met : Queue α) (owing : Bool) (turn : Turn α)
    : Bool :=
  if turn.thread = thread then turn.joins side || (owing && !turn.settlesAt met side)
  else owing

/-- Whether a thread owes an entry of a side after a run from `met`, by whether it has owed one
at first: it has joined the sleepers and not settled since.
-/
def owes (thread : Nat) (side : Side) (met : Queue α) (owing : Bool)
    : List (Turn α) → Bool
  | [] => owing
  | turn :: later =>
    owes thread side turn.progress.queue (owesAfter thread side met owing turn) later

/-- How many threads owe an entry of a side after a run from `start`. -/
def owing (start : Queue α) (history : List (Turn α)) (threads : Nat) (side : Side) : Nat :=
  (List.range threads).countP fun thread => owes thread side start false history

/-- How many threads owe an entry of a side and do not sleep there. -/
def astir (start : Queue α) (history : List (Turn α)) (q : Queue α) (threads : Nat)
    (side : Side) : Nat :=
  (List.range threads).countP fun thread =>
    owes thread side start false history && !sleeps q.phases side thread

/-- How many threads have turned away from an entry of a side. -/
def deserters (history : List (Turn α)) (threads : Nat) (side : Side) : Nat :=
  (List.range threads).countP fun thread => decide (0 < desertions thread side history)

section
variable {slotBytes threads : Nat} {clock : Clock} {config : Config} {values : List α}
  {fresh q : Queue α} {history : List (Turn α)}

/-- Each thread that has come to a queue keeps its place there. -/
theorem Run.place (run : Run (fresh.withThreads clock threads) history q) {thread : Nat}
    (within : thread < threads)
    : (fresh.withThreads clock threads).phase? thread = some .idle
      ∧ ∃ phase, q.phase? thread = some phase := by
  have idle : (fresh.withThreads clock threads).phase? thread = some .idle := by
    simp [phase?, withThreads, within]
  exact ⟨idle, run.present idle⟩

section
variable
  (created : (ofConfigAndItems slotBytes config (.ofList values)).result = .ok fresh)
  (run : Run (fresh.withThreads clock threads) history q) (side : Side)
include created run

end

end

-----------------------------------------------------------------------------------------
-- Exact counts in every state with a free lock
-----------------------------------------------------------------------------------------

/-- The counts of a side are right about its threads after a run from `start`. They add up to
the threads that have joined the sleepers and not settled since, which are those that sleep and
those that do not any more. The latter are on the way back, or have failed in the report of a
poisoned lock before they could settle; of these there are none where the log sink does not
fail in such reports, however many threads poison the lock. Pending wakeups are no more than
threads that do not sleep. Whoever settles takes exactly one entry out, so that no subtraction
is cut off; once nobody is between parking and settling both counts are zero, and once all who
are sleep, the sleepers alone are counted.
-/
structure Exact (start : Queue α) (history : List (Turn α)) (threads : Nat) (q : Queue α)
    (side : Side) : Prop where
  total
    : (q.state.waiters side).waiting + (q.state.waiters side).notified
      = owing start history threads side
  parts
    : owing start history threads side = q.parked side + astir start history q threads side
  awake : astir start history q threads side = q.woken side + deserters history threads side
  notified : (q.state.waiters side).notified ≤ astir start history q threads side
  waiting : q.parked side ≤ (q.state.waiters side).waiting
  settles
    : ∀ {thread call},
        q.phase? thread = some (.woken side call)
        → ((q.state.waiters side).notified = 0 → 1 ≤ (q.state.waiters side).waiting)
          ∧ (q.state.waiters side).settle.waiting + (q.state.waiters side).settle.notified + 1
            = (q.state.waiters side).waiting + (q.state.waiters side).notified
  absent
    : owing start history threads side = 0
      → q.state.waiters side = { waiting := 0, notified := 0 }
  asleep
    : astir start history q threads side = 0
      → q.state.waiters side = { waiting := q.parked side, notified := 0 }
  healthy : q.poisoned = false → deserters history threads side = 0
  steady : Steady history → deserters history threads side = 0

section
variable {slotBytes threads : Nat} {clock : Clock} {config : Config} {values : List α}
  {fresh q : Queue α} {history : List (Turn α)}

end

/-- A consumer sleeps, another one gives up and the sink fails under it, and the first one
stirs, finds the poisoned lock before the other can close the queue, and fails in its report.
-/
def failedOnTheWayBack : List (Nat × Nat × Move Nat) :=
  [(0, 0, .call (.waitPop .infinite) false), (0, 0, .enter []), (0, 0, .leave),
    (1, 1, .call (.waitPop (.after 0)) false), (1, 1, .enter []), (2, 0, .stir),
    (3, 1, .fail), (3, 0, .stumble), (4, 0, .fail), (5, 1, .enter []), (5, 1, .leave),
    (6, 0, .enter []), (6, 0, .leave)]

/-- Its entry is still counted when both calls have ended. -/
example
    : let start := (ofRing (.ofCapacity 1) (.empty 1)).withThreads .ofWords 2
      let played := start.play failedOnTheWayBack
      played.1.length = 13
      ∧ played.2.state.consumers = { waiting := 1, notified := 0 }
      ∧ owing start played.1 2 .consumer = 1
      ∧ deserters played.1 2 .consumer = 1 :=
  ⟨rfl, rfl, rfl, rfl⟩

end Queue

end Conduit
