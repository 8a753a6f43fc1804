import Conduit.Proofs.Queue.Unwinding
import Conduit.Proofs.World.Tasks

/-! What closes a queue that any programs share.
A refused push, an expired wait and a lock that is not free have nothing to do with it, nor
has a function that fails on an element, since by then the element has been handed out and
the lock given back.
-/

namespace Conduit

variable {τ α : Type}

namespace World

/-- Why queue `k` of a world may be closed, or its lock poisoned. Some thread has called to
close it, or the sink has failed under a thread that held its lock and was not failing when it
called; every other step leaves flag and poison alone, in particular every step of a thread
that was already failing, all of whose calls go just the way in which they would have gone
otherwise.
-/
structure ClosedForCause (others : Program τ α) (start : World (Task α ⊕ τ) α)
    (history : List (Happening α)) (w : World (Task α ⊕ τ) α) (k : Nat) (q : Queue α)
    : Prop where
  cause
    : q.state.closed = true ∨ q.poisoned = true
      → ∃ first early turn late before,
        start.queues[k]? = some first
        ∧ turnsAt history k = early ++ turn :: late
        ∧ Queue.Run first early before
        ∧ before.step? turn.now turn.thread turn.move = some turn.progress
        ∧ (before.Closes turn ∨ before.Fails turn)
  poison
    : q.poisoned = true
      → ∃ first early turn late before,
        start.queues[k]? = some first
        ∧ turnsAt history k = early ++ turn :: late
        ∧ Queue.Run first early before
        ∧ before.step? turn.now turn.thread turn.move = some turn.progress
        ∧ before.Fails turn
  keeps
    : ∀ {turn : Turn α},
        q.step? turn.now turn.thread turn.move = some turn.progress
        → ¬ q.Closes turn
        → ¬ q.Fails turn
        → turn.progress.queue.fifo.closed = q.fifo.closed
          ∧ turn.progress.queue.poisoned = q.poisoned
  answers
    : ∀ {turn : Turn α} {answer},
        q.step? turn.now turn.thread turn.move = some turn.progress
        → turn.progress.answer = some answer
        → answer ≠ .sinkFailed
        → turn.progress.queue.state = q.state
          ∧ turn.progress.queue.poisoned = q.poisoned
  unwound
    : ∀ {turn : Turn α} {phase},
        q.step? turn.now turn.thread turn.move = some turn.progress
        → q.phase? turn.thread = some phase
        → phase.wasFailing = true
        → turn.progress.queue.poisoned = q.poisoned
          ∧ (turn.progress.queue.fifo.closed = q.fifo.closed ∨ q.Closes turn)
  unwinding
    : ∀ {now thread operation failing begun late last},
        q.step? now thread (.call operation failing) = some begun
        → Queue.Run begun.queue late last
        → Queue.GoesOn thread late
        → ∀ otherwise,
          q.step? now thread (.call operation otherwise)
            = some (begun.noting thread otherwise)
          ∧ Queue.Run (begun.queue.noting thread otherwise)
              (late.map (·.noting thread otherwise)) (last.noting thread otherwise)
          ∧ (last.phase? thread = some .idle → last.noting thread otherwise = last)
  callbacks
    : ∀ {thread action after} {route : Route} {failAt count seen failed},
        w.programs[thread]?
            = some (.inl (.drain k route.front.waitPop failAt count seen))
        → w.step? (Task.program.beside others) thread action = some after
        → after.programs[thread]? = some (.inl (.finished (.consumerFailed failed)))
        → (∃ same,
            after.queues[k]? = some same
            ∧ same.state = q.state
            ∧ same.poisoned = q.poisoned)
          ∧ (∀ j, j ≠ k → after.queues[j]? = w.queues[j]?)
          ∧ ∀ next, after.step? (Task.program.beside others) thread next = none

/-- What comes to hold of a queue that has been opened does so in one of the turns at it. -/
theorem Run.turning {σ : Type} {p : Program σ α} {start w : World σ α}
    {history : List (Happening α)} (run : Run p start history w) {k : Nat} {values : List α}
    (opens : start.Opens k values) {q : Queue α}
    (here : w.queues[k]? = some q) {P : Queue α → Prop} (after : P q)
    (before : ∀ {first}, start.queues[k]? = some first → ¬ P first)
    : ∃ first early turn late met,
        start.queues[k]? = some first
        ∧ turnsAt history k = early ++ turn :: late
        ∧ Queue.Run first early met
        ∧ met.Orderly
        ∧ met.step? turn.now turn.thread turn.move = some turn.progress
        ∧ ¬ P met
        ∧ P turn.progress.queue := by
  obtain ⟨slotBytes, config, fresh, _, created, found⟩ := opens
  obtain ⟨last, there, inner⟩ := run.queue found
  obtain rfl := Option.some.inj (here.symm.trans there)
  obtain ⟨early, turn, late, met, split, first, made, change⟩ :=
    inner.turning (before found) after
  exact ⟨_, early, turn, late, met, found, split, first, first.orderly created, made, change⟩

section
variable {others : Program τ α} {start w after : World (Task α ⊕ τ) α}
  {history : List (Happening α)}

/-- The function of a consumer fails when the lock has long been given back. -/
theorem Acts.of_consumerFailed {thread : Nat} {action : Action} {k : Nat} {route : Route}
    {failAt : Option Nat} {count : Nat} {seen failed : List α}
    (runs
      : w.programs[thread]? = some (.inl (.drain k route.front.waitPop failAt count seen)))
    (made : w.step? (Task.program.beside others) thread action = some after)
    (fails : after.programs[thread]? = some (.inl (.finished (.consumerFailed failed))))
    {q : Queue α} (here : w.queues[k]? = some q)
    : (∃ same,
        after.queues[k]? = some same ∧ same.state = q.state ∧ same.poisoned = q.poisoned)
      ∧ (∀ j, j ≠ k → after.queues[j]? = w.queues[j]?)
      ∧ ∀ next, after.step? (Task.program.beside others) thread next = none := by
  rw [route.front_waitPop] at runs
  obtain ⟨program, queue, happening, _, rfl, acts⟩ := Acts.of_step? made
  obtain rfl := Option.some.inj (acts.runs.symm.trans runs)
  have there : happening.request.queue = k :=
    (congrArg Request.queue (Option.some.inj acts.asks)).symm
  subst there
  obtain rfl := Option.some.inj (acts.found.symm.trans here)
  refine ⟨⟨_, acts.queue_self, ?_⟩, fun j different => acts.queue_other different, ?_⟩
  · obtain ⟨value, answered, _⟩ := acts.popped_of_failed fails
    exact (Queue.Transition.of_step? acts.made).kept_of_answer answered fun lost => by cases lost
  · intro next
    simp only [step?, stepBy?, fails]
    rfl

/-- A queue is closed, and its lock poisoned, for no other reason than that a thread has
called to close it or that the sink has failed under its lock; witness: the flag and the
poison are changed in some turn of the run, and of its turns no other ones do that.
-/
theorem closes_only_for_cause {k : Nat} {values : List α}
    (run : Run (Task.program.beside others) start history w) (opens : start.Opens k values)
    : ∃ q, w.queues[k]? = some q ∧ ClosedForCause others start history w k q := by
  obtain ⟨_, _, _, _, _, q, created, here, inner⟩ := run.opened opens
  have orderly := inner.orderly created
  refine ⟨q, here, ?cause, ?poison, ?keeps, ?answers, ?unwound, ?unwinding, ?callbacks⟩
  case cause =>
    intro shut
    have closed : q.fifo.closed = true := by
      rcases shut with flag | poisoned
      · simp only [Queue.fifo, flag, Bool.true_or]
      · exact Queue.fifo_closed_of_poisoned poisoned
    have wasOpen : ∀ {first}, start.queues[k]? = some first → ¬ first.fifo.closed = true :=
      fun found => Bool.eq_false_iff.mp (opens.isOpen found)
    obtain ⟨first, early, turn, late, before, found, split, reached, met, made, wasOpen,
      after⟩ := run.turning opens here (P := fun q => q.fifo.closed = true) closed wasOpen
    refine ⟨first, early, turn, late, before, found, split, reached, made, ?_⟩
    exact met.cause (.of_step? made) (Bool.eq_false_iff.mpr wasOpen) after
  case poison =>
    intro poisoned
    have healthy : ∀ {first}, start.queues[k]? = some first → ¬ first.poisoned = true :=
      fun found already => Bool.eq_false_iff.mp (opens.isOpen found)
        (Queue.fifo_closed_of_poisoned already)
    obtain ⟨first, early, turn, late, before, found, split, reached, met, made, healthy,
      after⟩ := run.turning opens here (P := fun q => q.poisoned = true) poisoned healthy
    refine ⟨first, early, turn, late, before, found, split, reached, made, ?_⟩
    refine (met.poison_cases (.of_step? made)).resolve_left fun kept => ?_
    exact healthy (kept.symm.trans after)
  case keeps => exact fun made => orderly.keepsFlags (.of_step? made)
  case answers => exact fun made => (Queue.Transition.of_step? made).kept_of_answer
  case unwound =>
    intro turn phase made found failing
    have transition := Queue.Transition.of_step? made
    have healthy : ¬ q.Fails turn := by
      rintro ⟨_, _, old, call, there, reports, fresh⟩
      obtain rfl := Option.some.inj (found.symm.trans there)
      cases (failing.symm.trans (Phase.wasFailing_of_atSink? reports)).trans fresh
    by_cases closes : q.Closes turn
    · exact ⟨(orderly.poison_cases transition).resolve_right healthy, Or.inr closes⟩
    · obtain ⟨flag, poison⟩ := orderly.keepsFlags transition closes healthy
      exact ⟨poison, Or.inl flag⟩
  case unwinding => exact fun begins run goesOn => run.unwinding begins goesOn
  case callbacks => exact fun runs made fails => Acts.of_consumerFailed runs made fails here

end

/-- A consumer whose function fails on the first element, a thread that pushes while it is
already failing, one that finds no room, and one that closes.
-/
def failingCallers : World (Task Nat ⊕ Task Nat) Nat :=
  { queues := [(Queue.ofRing (.ofCapacity 1) ((Ring.empty 1).pushed 7)).withThreads .ofWords 4]
    programs :=
      [.inl (.drain 0 Route.own.front.waitPop (some 1) 0 []),
        .inr (.call 0 (Route.own.back.waitPush 9) true),
        .inr (.call 0 (Route.own.back.tryPush 5) false),
        .inr (.call 0 Route.own.back.close false)] }

/-- The failing thread sleeps at the full queue until the consumer has taken the element. -/
def wokenWhileFailing : List (Nat × Action) :=
  [(1, .begin), (1, .enter []), (1, .leave), (0, .begin), (0, .enter []), (0, .leave),
    (1, .enter []), (1, .leave), (2, .begin), (2, .enter []), (2, .leave)]

/-- The consumer's function and the push of the failing thread have left the queue open, and
only the call that comes last closes it.
-/
theorem closes_only_for_cause_wokenWhileFailing
    : let p := Task.program.beside Task.program
      let played := failingCallers.play p wokenWhileFailing
      let closed := failingCallers.play p
        (wokenWhileFailing ++ [(3, .begin), (3, .enter []), (3, .leave)])
      played.2.programs[0]? = some (.inl (.finished (.consumerFailed [7])))
      ∧ played.2.programs[1]? = some (.inr (.finished (.answered (.push (.ok ())))))
      ∧ played.2.programs[2]? = some (.inr (.finished (.answered (.push (.error (.full 5))))))
      ∧ played.2.queues[0]?.map (fun q => (q.state.closed, q.poisoned)) = some (false, false)
      ∧ closed.2.queues[0]?.map (fun q => (q.state.closed, q.poisoned)) = some (true, false)
      ∧ (∃ q,
          closed.2.queues[0]? = some q
          ∧ ClosedForCause Task.program failingCallers closed.1 closed.2 0 q) := by
  have opens : failingCallers.Opens 0 [7] := ⟨8, .ofCapacity 1, _, _, rfl, rfl⟩
  exact ⟨rfl, rfl, rfl, rfl, rfl, closes_only_for_cause (.of_play _ failingCallers _) opens⟩

end World

end Conduit
