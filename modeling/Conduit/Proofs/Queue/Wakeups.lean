import Conduit.Proofs.Queue.Accounting

/-! No wakeup is lost: nobody sleeps on while there is something for it to do.
A sleeper may be left alone only if enough others of its side have been woken to take whatever
there is, no matter who sent their wakeups and whether they were meant for them.
-/

namespace Conduit

variable {α : Type}

/-- Whether a move carries a call on, rather than beginning one or ending a sleep unasked. -/
def Move.isWork : Move α → Bool
  | .enter _ | .stumble | .leave | .fail => true
  | .call .. | .stir => false

namespace Queue

-----------------------------------------------------------------------------------------
-- The invariant
-----------------------------------------------------------------------------------------

/-- While anybody has joined the sleepers of a side of an open queue, the woken threads of
this side are at least as many as there are elements to take, or slots to fill.
-/
def Attended (q : Queue α) (side : Side) : Prop :=
  q.fifo.closed = false → 0 < q.joined side → q.fifo.available side ≤ q.woken side

/-- When a thread has worked on an open queue and somebody of a side sleeps on, that is the
thread itself, or all wakeups that its work calls for have been sent.
-/
theorem Tracked.woken_of_works {q : Queue α} {side : Side} (tracked : q.Tracked side)
    (orderly : q.Orderly) (free : q.holder = none) {thread : Nat} {old : Phase α}
    (found : q.phase? thread = some old) (awake : ∀ side, old.isParked side = false)
    {sleptOn : Option Side} (door : old.isWoken side = decide (sleptOn = some side))
    {call : Call α} {preferred : List Nat} {done : Section α (Outcome α)}
    (worked : q.Worked sleptOn done) (isOpen : done.state.closed = false)
    (left : 0 < (q.enterWith thread call preferred done).queue.joined side)
    : done.result.isWait side = true
      ∨ 0 < q.joined side
        ∧ (q.enterWith thread call preferred done).queue.woken side
            + (old.isWoken side).toNat
          = q.woken side + done.result.admits side := by
  obtain ⟨_, enough⟩ := tracked.settled found door
  obtain ⟨asleep, moved⟩ := orderly.counts_enterWith free found awake call preferred done side
  rw [worked.asleep side _ tracked.silent, isOpen, if_neg Bool.false_ne_true] at asleep
  cases wait : done.result.isWait side with
  | true => exact Or.inl rfl
  | false =>
    rw [wait, Bool.toNat_false] at asleep moved
    exact Or.inr ⟨by omega, by omega⟩

/-- Every step keeps the sleepers attended. A caller that takes the place of a woken thread
has taken an element or filled a slot in its stead, or found that there was none.
-/
theorem Attended.shift {q after : Queue α} {side : Side} (attended : q.Attended side)
    (orderly : q.Orderly) (tracked : q.Tracked side) {thread : Nat} {left : Side → Bool}
    (shift : q.Shift thread left after)
    : after.Attended side := by
  cases shift with
  | @moves old new after found state config phases same fewer healthy =>
    obtain ⟨joins, wakes⟩ := counts_set found phases side
    have same := same side
    have fewer := fewer side
    unfold Phase.entryCount at same
    have still : after.fifo.available side = q.fifo.available side := by
      cases side <;> simp only [Fifo.available, fifo, state, config]
    intro isOpen anybody
    obtain ⟨isOpen, unpoisoned⟩ := fifo_closed_eq_false.mp isOpen
    rw [state] at isOpen
    obtain ⟨before, kept⟩ := healthy unpoisoned
    rw [kept side, Bool.toNat_false] at same
    have before := attended (fifo_closed_eq_false.mpr ⟨isOpen, before⟩) (by omega)
    omega
  | @works old sleptOn call preferred done free found awake door worked settled =>
    intro isOpen left
    rw [fifo_enterWith worked] at isOpen ⊢
    have isOpen : done.state.closed = false := isOpen
    have available := worked.available side
    rcases tracked.woken_of_works orderly free found awake (door side) worked isOpen left with
      wait | ⟨anybody, woken⟩
    · -- The thread goes to sleep itself, since there is nothing to do on its side.
      have nothing := Outcome.admits_of_isWait wait
      have moved := worked.moved isOpen (Or.inr wait)
      rw [nothing] at moved
      rw [nothing, nothing] at available
      omega
    · have before := attended (worked.wasOpen isOpen) anybody
      by_cases slept : sleptOn = some side
      · -- One woken thread fewer, and one element or slot fewer, if there was any.
        have awoken : old.isWoken side = true := by rw [door side, decide_eq_true slept]
        have present : 0 < q.woken side := countP_pos_of_getElem? found awoken
        have moved := worked.moved isOpen (Or.inl slept)
        rw [awoken, Bool.toNat_true] at woken
        omega
      · -- What the work offers to this side, it has woken threads for.
        rw [door side, decide_eq_false slept, Bool.toNat_false] at woken
        omega

theorem Attended.withThreads (q : Queue α) (clock : Clock) (threads : Nat) (side : Side)
    : (q.withThreads clock threads).Attended side := by
  intro _ anybody
  rw [(nobody_joined q clock threads side).1] at anybody
  cases anybody

section
variable {slotBytes threads : Nat} {clock : Clock} {config : Config} {values : List α}
  {fresh q : Queue α}
  {history : List (Turn α)}

/-- In every reachable state the sleepers are attended, by induction on the run. -/
theorem Run.attended
    (created : (ofConfigAndItems slotBytes config (.ofList values)).result = .ok fresh)
    (run : Run (fresh.withThreads clock threads) history q)
    (side : Side)
    : q.Attended side := by
  have both := run.invariant created (fun q => q.Tracked side ∧ q.Attended side)
    ⟨.of_created created side, .withThreads fresh clock threads side⟩ <| by
      intro q now thread move progress orderly known transition
      obtain ⟨tracked, attended⟩ := known
      have shift := orderly.shift transition
      exact ⟨tracked.shift orderly shift, attended.shift orderly tracked shift⟩
  exact both.2

-----------------------------------------------------------------------------------------
-- A queue at which nothing moves any more
-----------------------------------------------------------------------------------------

/-- No thread that is awake in a call can take a step. -/
def Stalled (q : Queue α) : Prop :=
  ∀ {now thread : Nat} {move : Move α}, move.isWork = true → q.step? now thread move = none

/-- At a stalled queue the lock is free, since whoever holds it can give it back. -/
theorem Stalled.free (stalled : q.Stalled) (orderly : q.Orderly) : q.holder = none := by
  cases held : q.holder with
  | none => rfl
  | some thread =>
    obtain ⟨phase, here, inside⟩ := orderly.held held
    obtain ⟨move, progress, released, leaves⟩ := Transition.of_inside 0 here inside
    have works : move.isWork = true := by
      rcases released with rfl | rfl <;> rfl
    cases (stalled works).symm.trans leaves.step?

/-- At a stalled queue nobody has been woken, since a woken thread can take the free lock. -/
theorem Stalled.woken_eq (stalled : q.Stalled) (orderly : q.Orderly) (side : Side)
    : q.woken side = 0 := by
  refine List.countP_eq_zero.mpr fun phase member woken => ?_
  obtain ⟨thread, within, rfl⟩ := List.getElem_of_mem member
  have found : q.phase? thread = some q.phases[thread] := List.getElem?_eq_getElem within
  cases here : q.phases[thread] with
  | woken slept call =>
    rw [here] at found
    have enters : q.Transition 0 thread (.enter []) _ :=
      .enters (some slept) found (stalled.free orderly) fun none => by cases none
    cases (stalled rfl).symm.trans enters.step?
  | _ =>
    rw [here] at woken
    cases woken

/-- At a stalled queue a poisoned lock has been seen to, since the thread that failed can take
the free lock.
-/
theorem Stalled.closed_of_poisoned (stalled : q.Stalled) (orderly : q.Orderly)
    (poisoned : q.poisoned = true) : q.state.closed = true := by
  rcases orderly.excused poisoned with closed | ⟨thread, call, failing⟩
  · exact closed
  · have enters : q.Transition 0 thread (.enter []) _ :=
      .cleansUp failing (stalled.free orderly)
    cases (stalled rfl).symm.trans enters.step?

/-- What the sleepers of a queue can rely on. While the queue is open, its lock not poisoned, and
one of them sleeps, as many of its side are awake as there are elements to take or slots to
fill; nobody sleeps at a closed queue; and where nothing moves any more, consumers sleep at an
open empty queue, producers at an open full one, and never both at one queue.
-/
structure NoneLost (q : Queue α) : Prop where
  consumers
    : q.fifo.closed = false
      → 0 < q.parked .consumer
      → q.state.ring.length ≤ q.woken .consumer
  producers
    : q.fifo.closed = false
      → 0 < q.parked .producer
      → q.config.capacity - q.state.ring.length ≤ q.woken .producer
  closed : q.state.closed = true → ∀ side, q.parked side = 0
  stalledConsumer
    : q.Stalled
      → 0 < q.parked .consumer
      → q.fifo.closed = false ∧ q.state.ring.length = 0
  stalledProducer
    : q.Stalled
      → 0 < q.parked .producer
      → q.fifo.closed = false ∧ q.state.ring.length = q.config.capacity
  oneSide : q.Stalled → q.parked .consumer = 0 ∨ q.parked .producer = 0

theorem parked_le_joined (q : Queue α) (side : Side) : q.parked side ≤ q.joined side := by
  refine List.countP_mono_left fun phase _ parked => ?_
  cases phase with
  | parked => exact parked
  | _ => cases parked

/-- No wakeup is lost in any reachable state, the lock free or held. -/
theorem no_wakeup_lost
    (created : (ofConfigAndItems slotBytes config (.ofList values)).result = .ok fresh)
    (run : Run (fresh.withThreads clock threads) history q)
    : q.NoneLost := by
  have orderly := run.orderly created
  have attended := run.attended created
  have silent := fun side => (run.tracked created side).silent
  have length := Ring.length_toList orderly.sound.valid
  have joined := q.parked_le_joined
  have isOpen : q.Stalled → ∀ side, 0 < q.parked side → q.fifo.closed = false := by
    intro stalled side anybody
    have isOpen : q.state.closed = false := by
      rw [Bool.eq_false_iff]
      intro closed
      have nobody := silent side closed
      have := joined side
      omega
    have clean : q.poisoned = false := by
      rw [Bool.eq_false_iff]
      intro poisoned
      have closed := stalled.closed_of_poisoned orderly poisoned
      cases closed.symm.trans isOpen
    exact fifo_closed_eq_false.mpr ⟨isOpen, clean⟩
  have consumers
      : q.fifo.closed = false
        → 0 < q.parked .consumer
        → q.state.ring.length ≤ q.woken .consumer := by
    intro isOpen anybody
    rw [← length]
    exact attended .consumer isOpen (Nat.lt_of_lt_of_le anybody (joined .consumer))
  have producers
      : q.fifo.closed = false
        → 0 < q.parked .producer
        → q.config.capacity - q.state.ring.length ≤ q.woken .producer := by
    intro isOpen anybody
    rw [← length]
    exact attended .producer isOpen (Nat.lt_of_lt_of_le anybody (joined .producer))
  have empty
      : q.Stalled → 0 < q.parked .consumer → q.state.ring.length = 0 := by
    intro stalled anybody
    have enough := consumers (isOpen stalled _ anybody) anybody
    rw [stalled.woken_eq orderly] at enough
    omega
  have full
      : q.Stalled → 0 < q.parked .producer → q.state.ring.length = q.config.capacity := by
    intro stalled anybody
    have enough := producers (isOpen stalled _ anybody) anybody
    rw [stalled.woken_eq orderly] at enough
    have bound := orderly.sound.length_le
    omega
  refine ⟨consumers, producers, fun closed side => ?_,
    fun stalled anybody => ⟨isOpen stalled _ anybody, empty stalled anybody⟩,
    fun stalled anybody => ⟨isOpen stalled _ anybody, full stalled anybody⟩, fun stalled => ?_⟩
  · have nobody := silent side closed
    have := joined side
    omega
  · have positive := orderly.positive
    by_cases consumer : 0 < q.parked .consumer
    · by_cases producer : 0 < q.parked .producer
      · have none := empty stalled consumer
        have all := full stalled producer
        omega
      · exact Or.inr (Nat.le_zero.mp (Nat.not_lt.mp producer))
    · exact Or.inl (Nat.le_zero.mp (Nat.not_lt.mp consumer))

end

/-- Two consumers go to sleep, a push wakes the second one, and a third thread takes the value
before it gets the lock back, so that it goes to sleep again.
-/
def stolenBeforeWakeup : List (Nat × Nat × Move Nat) :=
  [(0, 0, .call (.waitPop .infinite) false), (0, 0, .enter []), (0, 0, .leave),
    (1, 2, .call (.waitPop .infinite) false), (1, 2, .enter []), (1, 2, .leave),
    (2, 1, .call (.tryPush 7) false), (2, 1, .enter [2]), (2, 1, .leave),
    (3, 1, .call .tryPop false), (3, 1, .enter []), (3, 1, .leave),
    (4, 2, .enter []), (4, 2, .leave)]

/-- The stolen value leaves both consumers asleep, and that is where they belong. -/
theorem no_wakeup_lost_stolen
    : let start := (ofRing (.ofCapacity 1) (.empty 1)).withThreads .ofWords 3
      let q := (start.play stolenBeforeWakeup).2
      q.parked .consumer = 2 ∧ q.state.ring.length = 0 ∧ q.NoneLost := by
  have created
      : (ofConfigAndItems 8 (.ofCapacity 1) (.ofList ([] : List Nat))).result
        = .ok (ofRing (.ofCapacity 1) (.empty 1)) := rfl
  exact ⟨rfl, rfl, no_wakeup_lost created (.of_play _ stolenBeforeWakeup)⟩

end Queue

end Conduit
