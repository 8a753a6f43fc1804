import Conduit.Proofs.Queue.Resting
import Conduit.Proofs.World.Channels
import Conduit.Schedule

/-! Worlds in which nobody can go on by itself.
At every queue the lock is free then, and whoever has a call to make sleeps at its queue,
which is open and has nothing for it to do.
-/

namespace Conduit

variable {σ α : Type}

namespace World

variable {p : Program σ α} {start w : World σ α} {history : List (Happening α)}

/-- No thread can make the next step of its program unless somebody wakes it. The sink keeps
nobody waiting and does not fail.
-/
def Blocked (p : Program σ α) (w : World σ α) : Prop :=
  ∀ thread, w.advance? p {} thread = none

/-- The next step of a thread is one at the queue that it calls. -/
theorem advance?_of_queue {thread : Nat} {program : σ} {request : Request α} {q : Queue α}
    {phase : Phase α} {action : Action} {progress : Progress α}
    (runs : w.programs[thread]? = some program) (asks : p.request? program = some request)
    (here : w.queues[request.queue]? = some q) (found : q.phase? thread = some phase)
    (next : nextAction? {} thread phase = some action)
    (made : q.step? w.now thread (action.move request) = some progress)
    : ∃ after, w.advance? p {} thread = some after := by
  simp [advance?, stepBy?, runs, asks, here, found, next, made]

section
variable {k : Nat} {values : List α} {q : Queue α}

/-- Nothing goes on at a queue of a blocked world. -/
theorem Run.quiescent (run : Run p start history w) (opens : start.Opens k values)
    (blocked : w.Blocked p) (here : w.queues[k]? = some q)
    : q.Quiescent := by
  have orderly := (run.known opens here).orderly
  -- Whoever is in a call at the queue is where its program wants it to be.
  have stuck
      : ∀ {thread phase terms action move progress},
          q.phase? thread = some phase
          → phase.terms? = some terms
          → nextAction? {} thread phase = some action
          → (∀ request : Request α, action.move request = move)
          → ¬ q.Transition w.now thread move progress := by
    intro thread phase terms action move progress found asks next same transition
    obtain ⟨program, request, runs, wants, rfl, _⟩ := run.faithful opens here found asks
    obtain ⟨after, made⟩ :=
      advance?_of_queue runs wants here found next (same request ▸ transition.step?)
    cases (blocked thread).symm.trans made
  have free : q.holder = none := by
    cases held : q.holder with
    | none => rfl
    | some holder =>
      obtain ⟨phase, found, inside⟩ := orderly.held held
      cases phase with
      | inside call outcome reporting =>
        obtain ⟨progress, leaves⟩ := Queue.Transition.of_work w.now found
        have next : nextAction? {} holder (.inside call outcome reporting) = some .leave := by
          cases reporting <;> rfl
        exact absurd leaves (stuck found rfl next fun _ => rfl)
      | stumbling =>
        have fails := Queue.finish_transition w.now found rfl
        exact absurd fails (stuck found rfl rfl fun _ => rfl)
      | _ => cases inside
  refine ⟨free, fun {thread phase} found => ?_⟩
  cases phase with
  | idle | parked => rfl
  | arrived | woken | failing =>
    obtain ⟨progress, enters⟩ := Queue.Transition.of_seeking free w.now found rfl
    exact absurd enters (stuck found rfl rfl fun _ => rfl)
  | inside | stumbling => cases orderly.outside free found

/-- A thread that sleeps in its call at an open queue at which there is nothing for it to
do: a producer since the queue is full, a consumer since it is empty. It has been told of
all that it has done there.
-/
structure Starved (w : World σ α) (history : List (Happening α)) (thread : Nat)
    (request : Request α) : Prop where
  isOpen : ¬ w.ClosedAt request.queue
  waits : request.operation.side? ≠ none
  full : request.operation.side? ≠ some .consumer → 0 < w.buffered request.queue
  empty : request.operation.side? = some .consumer → w.buffered request.queue = 0
  taken : takenFrom history request.queue thread = handed history request.queue thread
  stored : storedIn history request.queue thread = confirmed history request.queue thread

/-- In a blocked world a thread that has a call to make starves in it. -/
theorem Run.starved (run : Run p start history w) (blocked : w.Blocked p) {thread : Nat}
    {first program : σ} {request : Request α} (opens : start.Opens request.queue values)
    (starts : start.programs[thread]? = some first)
    (runs : w.programs[thread]? = some program) (asks : p.request? program = some request)
    : w.Starved history thread request := by
  obtain ⟨q, phase, here, found, told, place⟩ := run.told_by opens starts runs
  obtain ⟨_, _, _, _, _, same, created, there, inner⟩ := run.opened opens
  obtain rfl := Option.some.inj (here.symm.trans there)
  have orderly := inner.orderly created
  have quiet := run.quiescent opens blocked here
  cases phase with
  | idle =>
    have begins : q.Transition w.now thread (Action.begin.move request) _ := .begins found
    obtain ⟨after, made⟩ := advance?_of_queue runs asks here found rfl begins.step?
    cases (blocked thread).symm.trans made
  | parked side call =>
    have waits : call.operation.side? = some side := orderly.fits found
    rcases place with idle | ⟨wanted, deadline, wants, _, terms⟩
    · cases idle
    obtain rfl := Option.some.inj (asks.symm.trans wants)
    obtain ⟨same, _⟩ := Prod.mk.inj (Option.some.inj terms)
    rw [same] at waits
    have anybody : 0 < q.parked side := countP_pos_of_getElem? found (decide_eq_true rfl)
    have unlost := Queue.no_wakeup_lost created inner
    have isOpen : q.fifo.closed = false := by
      cases side with
      | consumer => exact (unlost.stalledConsumer quiet.stalled anybody).1
      | producer => exact (unlost.stalledProducer quiet.stalled anybody).1
    have nothing := (inner.resting created quiet isOpen).nothing side anybody
    have buffered := run.buffered_eq opens here
    refine ⟨?_, waits ▸ nofun, fun produces => ?_, fun consumes => ?_,
      told.taken.trans (List.append_nil _), told.stored.trans (List.append_nil _)⟩
    · rintro ⟨same, there, closed⟩
      obtain rfl := Option.some.inj (here.symm.trans there)
      cases isOpen.symm.trans closed
    · cases side with
      | producer =>
        have positive := orderly.positive
        simp only [Fifo.available, Queue.fifo] at nothing
        omega
      | consumer => exact absurd waits produces
    · obtain rfl := Option.some.inj (waits.symm.trans consumes)
      exact buffered.trans nothing
  | _ => cases quiet.rests found

end

/-- A world that is not blocked has a step that needs neither a sleep that ends unasked nor a
failure of the sink, unless a thread is about to fail in the report of a poisoned lock.
-/
theorem step?_of_not_blocked (free : ¬ w.Blocked p)
    (upright : ∀ {k : Nat} {q : Queue α}, w.queues[k]? = some q → q.Upright)
    : ∃ thread action after,
        w.step? p thread action = some after ∧ action ≠ .stir ∧ action ≠ .fail := by
  obtain ⟨thread, moves⟩ := Classical.not_forall.mp free
  obtain ⟨after, made⟩ := Option.ne_none_iff_exists'.mp moves
  obtain ⟨k, q, phase, action, here, found, next, step⟩ := step?_of_stepBy? made
  refine ⟨thread, action, after, step, ?_⟩
  cases phase with
  | inside call outcome reporting =>
    cases reporting <;> cases next <;> exact ⟨nofun, nofun⟩
  | stumbling sleptOn call => exact absurd found (upright here thread sleptOn call)
  | _ => cases next <;> exact ⟨nofun, nofun⟩

end World

end Conduit
