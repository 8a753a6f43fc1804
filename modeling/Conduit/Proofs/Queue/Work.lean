import Conduit.Proofs.Queue.Sections
import Conduit.Proofs.Queue.Wakes

/-! What a thread does between taking the lock and giving it back.
A poisoned lock closes the queue first, a thread that comes from a sleep settles its entry,
and then follows one line of the operation table. A failing thread only closes the queue.
-/

namespace Conduit

variable {α : Type}

/-- How many callers of a side can go on because of a stretch of work. -/
def Outcome.admits (outcome : Outcome α) (side : Side) : Nat :=
  match outcome with
  | .answered answer => answer.admits side
  | .waits .. => 0

/-- Whether a stretch of work ends with its caller going to sleep on the given side. -/
def Outcome.isWait (outcome : Outcome α) (side : Side) : Bool :=
  match outcome with
  | .answered _ => false
  | .waits slept _ => slept = side

theorem Outcome.admits_of_isWait {outcome : Outcome α} {side : Side}
    (wait : outcome.isWait side = true) (other : Side)
    : outcome.admits other = 0 := by
  cases outcome with
  | answered answer => cases wait
  | waits => rfl

/-- A side loses the sleepers that are chosen and gains the caller, if it has to wait. -/
theorem Waiters.after_eq (w : Waiters) (side : Side) (outcome : Outcome α)
    : w.after side outcome
      = { waiting :=
            w.waiting - min w.waiting (outcome.admits side) + (outcome.isWait side).toNat
          notified := w.notified + min w.waiting (outcome.admits side) } := by
  cases outcome with
  | answered answer => rfl
  | waits slept time =>
    by_cases same : slept = side <;>
      simp [Waiters.after, Waiters.park, Outcome.admits, Outcome.isWait, same]

namespace Queue

-----------------------------------------------------------------------------------------
-- The state that a thread meets when its operation begins
-----------------------------------------------------------------------------------------

/-- The queue without its machinery. A poisoned lock counts as closed. -/
def fifo (q : Queue α) : Fifo α :=
  { config := q.config
    elements := q.state.ring.toList
    closed := q.state.closed || q.poisoned }

/-- The state under the lock once a poisoned lock has been seen to. -/
def recovered (q : Queue α) : Guarded α :=
  { q.state with closed := q.state.closed || q.poisoned }

/-- The state that an operation meets, its caller having settled its own entry. -/
def ready (q : Queue α) (sleptOn : Option Side) : Guarded α :=
  match sleptOn with
  | none => q.recovered
  | some side => q.recovered.settle side

/-- The bookkeeping of a side that an operation meets. -/
def settled (q : Queue α) (sleptOn : Option Side) (side : Side) : Waiters :=
  if sleptOn = some side then (q.state.waiters side).settle else q.state.waiters side

/-- The wakeups that are sent because of a poisoned lock. -/
def alarm (q : Queue α) : List Wake :=
  if q.alarmed then [.all .consumer, .all .producer] else []

/-- A queue is open while nobody has closed it and its lock is not poisoned. -/
theorem fifo_closed_eq_false {q : Queue α}
    : q.fifo.closed = false ↔ q.state.closed = false ∧ q.poisoned = false :=
  Bool.or_eq_false_iff

theorem fifo_closed_of_poisoned {q : Queue α} (poisoned : q.poisoned = true)
    : q.fifo.closed = true :=
  (congrArg (q.state.closed || ·) poisoned).trans (Bool.or_true _)

theorem recover_eq (q : Queue α)
    : q.state.recover q.poisoned
      = { state := q.recovered
          wakes := q.alarm
          events := if q.alarmed then [.lockPoisoned] else []
          result := () } := by
  obtain ⟨config, clock, state, poisoned, holder, phases⟩ := q
  obtain ⟨ring, closed, producers, consumers⟩ := state
  cases poisoned <;> cases closed <;> rfl

theorem ready_waiters (q : Queue α) (sleptOn : Option Side) (side : Side)
    : (q.ready sleptOn).waiters side = q.settled sleptOn side := by
  rcases sleptOn with _ | slept
  · cases side <;> rfl
  · cases slept <;> cases side <;> rfl

/-- Settling touches neither elements nor the closed flag. -/
theorem ready_fifo (q : Queue α) (sleptOn : Option Side)
    : (q.ready sleptOn).fifo q.config = q.fifo := by
  rcases sleptOn with _ | slept
  · rfl
  · cases slept <;> rfl

theorem ready_ring (q : Queue α) (sleptOn : Option Side)
    : (q.ready sleptOn).ring = q.state.ring := by
  rcases sleptOn with _ | slept
  · rfl
  · cases slept <;> rfl

theorem ready_closed (q : Queue α) (sleptOn : Option Side)
    : (q.ready sleptOn).closed = (q.state.closed || q.poisoned) :=
  congrArg Fifo.closed (q.ready_fifo sleptOn)

/-- Once whoever has slept has settled, the attempt of a call is one line of the table. -/
theorem ready_attempted {q : Queue α} (sound : q.state.Sound q.config) (now : Nat)
    (call : Call α) (sleptOn : Option Side)
    : (q.ready sleptOn).Attempted q.config call.deadline now call.operation
        ((q.ready sleptOn).attempt q.config call.deadline now call.operation) := by
  refine Guarded.attempt_attempted ⟨?_, ?_⟩ call.deadline now call.operation
  · rw [ready_ring]
    exact sound.valid
  · rw [ready_ring]
    exact sound.capacity

-----------------------------------------------------------------------------------------
-- What a stretch of work leaves behind
-----------------------------------------------------------------------------------------

/-- What every stretch of work does to the bookkeeping: whoever has settled, the sleepers
that are chosen are as many as can go on, and exactly these are woken unless the queue is
now closed and everybody is. What is left to do for each side follows from what was moved.
On an open queue, a caller that leaves the sleepers or joins them has moved a value, or
there was none to move.
-/
structure Worked (q : Queue α) (sleptOn : Option Side) (done : Section α (Outcome α))
    : Prop where
  sound : done.state.Sound q.config
  closed : q.fifo.closed = true → done.state.closed = true
  waiters : ∀ side, done.state.waiters side = (q.settled sleptOn side).after side done.result
  asleep
    : ∀ side count,
        (q.state.closed = true → count = 0)
        → done.wakes.foldl (leftAsleep side) count
          = if done.state.closed then 0
            else count - min (q.settled sleptOn side).waiting (done.result.admits side)
  waits : ∀ {side time}, done.result = .waits side time → done.state.closed = false
  available
    : ∀ side,
        (done.state.fifo q.config).available side + done.result.admits side.other
        = q.fifo.available side + done.result.admits side
  moved
    : ∀ {side},
        done.state.closed = false
        → sleptOn = some side ∨ done.result.isWait side = true
        → done.result.admits side.other = 1 ∨ q.fifo.available side = 0
  quiet
    : canFail done.events = true
      → ∃ answer, done.result = .answered answer ∧ answer.isReported = true

/-- Only at an open queue does anybody go to sleep. -/
theorem Worked.open_of_wait {q : Queue α} {sleptOn : Option Side}
    {done : Section α (Outcome α)} (worked : q.Worked sleptOn done) {side : Side}
    (wait : done.result.isWait side = true)
    : done.state.closed = false := by
  cases result : done.result with
  | answered answer =>
    rw [result] at wait
    cases wait
  | waits slept time => exact worked.waits result

/-- Work that leaves a queue open has met it open. -/
theorem Worked.wasOpen {q : Queue α} {sleptOn : Option Side}
    {done : Section α (Outcome α)} (worked : q.Worked sleptOn done)
    (isOpen : done.state.closed = false)
    : q.fifo.closed = false := by
  rw [Bool.eq_false_iff]
  intro closed
  cases (worked.closed closed).symm.trans isOpen

/-- The wakeups of an attempt, counted on one side. -/
theorem foldl_leftAsleep_wakesOf (s : Guarded α) (operation : Operation α)
    (outcome : Outcome α) (side : Side) (count : Nat)
    : (s.wakesOf operation outcome).foldl (leftAsleep side) count
      = match outcome with
        | .answered _ =>
          if operation.isClose then 0
          else count - min (s.waiters side).waiting (outcome.admits side)
        | .waits .. => count := by
  cases outcome with
  | waits slept time => rfl
  | answered answer =>
    cases closes : operation.isClose <;> cases side <;>
      simp [Guarded.wakesOf, closes, foldl_leftAsleep_replicate, leftAsleep, Outcome.admits,
        Guarded.waiters]

theorem foldl_leftAsleep_alarm (q : Queue α) (side : Side) (count : Nat)
    : q.alarm.foldl (leftAsleep side) count = if q.alarmed then 0 else count := by
  unfold alarm
  cases q.alarmed <;> cases side <;> rfl

/-- An attempt closes the queue only if it is asked to. -/
theorem attempted_closed {s : Guarded α} {config : Config} {deadline : Option Nat}
    {now : Nat} {operation : Operation α} {done : Section α (Outcome α)}
    (attempted : s.Attempted config deadline now operation done)
    : (∃ answer, done.result = .answered answer)
        ∧ done.state.closed = (s.closed || operation.isClose)
      ∨ (∃ side time, done.result = .waits side time)
        ∧ s.closed = false
        ∧ done.state.closed = false := by
  have response := attempted.response
  unfold Section.response at response
  cases result : done.result with
  | answered answer =>
    rw [result] at response
    exact Or.inl ⟨⟨answer, rfl⟩, (Fifo.served_of_serve response).closed⟩
  | waits side time =>
    rw [result] at response
    have isOpen := (Fifo.serve_eq_waits response).2.1
    exact Or.inr ⟨⟨side, time, rfl⟩, isOpen, (attempted.kept result).2.1.trans isOpen⟩

theorem quiet_of_eventsOf (s : Guarded α) (config : Config) {outcome : Outcome α}
    (loud : canFail (s.eventsOf config outcome) = true)
    : ∃ answer, outcome = .answered answer ∧ answer.isReported = true := by
  unfold Guarded.eventsOf at loud
  split at loud
  · exact ⟨_, rfl, rfl⟩
  · exact ⟨_, rfl, rfl⟩
  · exact ⟨_, rfl, rfl⟩
  · simp [canFail] at loud

/-- Seeing to the lock and settling before an attempt. -/
def prepared (q : Queue α) (done : Section α (Outcome α))
    : Section α (Outcome α) :=
  { state := done.state
    wakes := q.alarm ++ done.wakes
    events := (if q.alarmed then [.lockPoisoned] else []) ++ done.events
    result := done.result }

/-- Work is an attempt on the state that is met once the lock has been seen to and the caller
has settled.
-/
theorem work_eq (q : Queue α) (now : Nat) (call : Call α) (sleptOn : Option Side)
    : q.work now call sleptOn
      = q.prepared
          ((q.ready sleptOn).attempt q.config call.deadline now call.operation) := by
  rw [work, recover_eq]
  cases sleptOn <;> rfl

/-- What the callers of a side find to do depends on the elements only. -/
theorem available_of_ring {q : Queue α} {s : Guarded α} (same : s.ring = q.state.ring)
    (side : Side)
    : (s.fifo q.config).available side = q.fifo.available side := by
  cases side <;> simp only [Fifo.available, Guarded.fifo, fifo, same]

/-- What an attempt leaves to do for the callers of a side, by whether it waits. -/
theorem available_of_attempted {q : Queue α} (sound : q.state.Sound q.config)
    {sleptOn : Option Side} {deadline : Option Nat} {now : Nat} {operation : Operation α}
    {done : Section α (Outcome α)}
    (attempted : (q.ready sleptOn).Attempted q.config deadline now operation done)
    (side : Side)
    : (done.state.fifo q.config).available side + done.result.admits side.other
      = q.fifo.available side + done.result.admits side := by
  cases result : done.result with
  | answered answer =>
    have response := attempted.response
    rw [ready_fifo, Section.response, result] at response
    exact (Fifo.served_of_serve response).available sound.length_le attempted.sound.length_le
      side
  | waits slept time =>
    have ring : done.state.ring = q.state.ring :=
      (attempted.kept result).1.trans (q.ready_ring sleptOn)
    exact available_of_ring ring side

/-- At an open queue, a caller that leaves the sleepers or joins them has moved a value, or
there was nothing for it to do.
-/
theorem moved_of_attempted {q : Queue α} {sleptOn : Option Side} {deadline : Option Nat}
    {now : Nat} {operation : Operation α} {done : Section α (Outcome α)}
    (attempted : (q.ready sleptOn).Attempted q.config deadline now operation done)
    (came : ∀ {side}, sleptOn = some side → operation.side? = some side)
    (isOpen : q.fifo.closed = false) {side : Side}
    (here : sleptOn = some side ∨ done.result.isWait side = true)
    : done.result.admits side.other = 1 ∨ q.fifo.available side = 0 := by
  have response := attempted.response
  rw [ready_fifo, Section.response] at response
  cases result : done.result with
  | answered answer =>
    rw [result] at response here
    rcases here with slept | wait
    · exact (Fifo.served_of_serve response).moves (came slept) isOpen
    · cases wait
  | waits other time =>
    rw [result] at response here
    obtain ⟨waiter, _, _, nothing⟩ := Fifo.serve_eq_waits response
    have same : other = side := by
      rcases here with slept | wait
      · exact Option.some.inj (waiter.symm.trans (came slept))
      · exact of_decide_eq_true wait
    rw [← same]
    exact Or.inr nothing

/-- The bookkeeping of a prepared attempt, by whether it waits and whether it closes. -/
theorem Worked.of_attempted {q : Queue α} (sound : q.state.Sound q.config)
    {sleptOn : Option Side} {deadline : Option Nat} {now : Nat} {operation : Operation α}
    {done : Section α (Outcome α)}
    (attempted : (q.ready sleptOn).Attempted q.config deadline now operation done)
    (came : ∀ {side}, sleptOn = some side → operation.side? = some side)
    : q.Worked sleptOn (q.prepared done) := by
  have closing := attempted_closed attempted
  have available := available_of_attempted sound attempted
  rw [ready_closed] at closing
  have keeps : q.fifo.closed = true → done.state.closed = true := by
    intro closed
    have closed : (q.state.closed || q.poisoned) = true := closed
    rcases closing with ⟨_, after⟩ | ⟨_, isOpen, _⟩
    · exact after.trans (by rw [closed, Bool.true_or])
    · cases closed.symm.trans isOpen
  have opened : done.state.closed = false → q.fifo.closed = false := by
    intro isOpen
    rw [Bool.eq_false_iff]
    intro closed
    cases (keeps closed).symm.trans isOpen
  refine ⟨attempted.sound, keeps, ?waiters, ?asleep, ?waits, available,
    fun isOpen => moved_of_attempted attempted came (opened isOpen), ?quiet⟩
  case waiters =>
    intro side
    rw [← ready_waiters]
    exact attempted.waiters side
  case waits =>
    intro side time result
    rcases closing with ⟨⟨answer, answered⟩, _⟩ | ⟨_, _, isOpen⟩
    · cases answered.symm.trans result
    · exact isOpen
  case quiet =>
    intro loud
    refine quiet_of_eventsOf (q.ready sleptOn) q.config ?_
    change canFail ((q.ready sleptOn).eventsOf q.config done.result) = true
    rw [← attempted.events]
    simp only [prepared, canFail, List.any_append, Bool.or_eq_true] at loud
    rcases loud with alarm | attempt
    · cases alarmed : q.alarmed <;> rw [alarmed] at alarm <;> cases alarm
    · exact attempt
  case asleep =>
    intro side count silent
    have woken
        : (q.prepared done).wakes.foldl (leftAsleep side) count
          = ((q.ready sleptOn).wakesOf operation done.result).foldl (leftAsleep side)
              (if q.alarmed then 0 else count) := by
      rw [prepared, List.foldl_append, foldl_leftAsleep_alarm, attempted.wakes]
    rw [woken, foldl_leftAsleep_wakesOf, ready_waiters]
    change _ = if done.state.closed then 0
      else count - min (q.settled sleptOn side).waiting (done.result.admits side)
    -- An alarm leaves nobody asleep, and without one a closed queue has no sleepers.
    rcases closing with ⟨⟨answer, answered⟩, after⟩ | ⟨⟨slept, time, waits⟩, isOpen, after⟩
    · rw [answered, after]
      cases closed : q.state.closed <;> cases poisoned : q.poisoned <;>
        cases closes : operation.isClose <;> simp [alarmed, closed, poisoned, silent]
    · simp only [Bool.or_eq_false_iff] at isOpen
      simp [waits, after, alarmed, isOpen, Outcome.admits]

/-- What the work of an operation does beyond the bookkeeping: it follows the operation table,
and it leaves the queue closed if a sink can fail in it without closing the queue.
-/
structure Answered (q : Queue α) (now : Nat) (call : Call α)
    (done : Section α (Outcome α))
    : Prop where
  response
    : q.fifo.serve (expired call.deadline now) call.operation = done.response q.config
  kept
    : ∀ {side time}, done.result = .waits side time → done.state.ring = q.state.ring
  careless
    : canFail done.events = true
      → call.operation.closesOnFailure = false
      → done.state.closed = true

/-- The work of an operation, assembled from seeing to the lock, settling and the attempt. -/
theorem worked_of_work {q : Queue α} (sound : q.state.Sound q.config) (now : Nat)
    (call : Call α) (sleptOn : Option Side)
    (came : ∀ {side}, sleptOn = some side → call.operation.side? = some side)
    : q.Worked sleptOn (q.work now call sleptOn)
      ∧ q.Answered now call (q.work now call sleptOn) := by
  have attempted := ready_attempted sound now call sleptOn
  have worked := Worked.of_attempted sound attempted came
  have response := attempted.response
  have kept := @attempted.kept
  rw [ready_fifo] at response
  rw [ready_ring] at kept
  rw [work_eq]
  refine ⟨worked, response, fun result => (kept result).1, ?_⟩
  intro loud careless
  obtain ⟨answer, answered, reported⟩ := worked.quiet loud
  have answered
      : ((q.ready sleptOn).attempt q.config call.deadline now call.operation).result
        = .answered answer := answered
  rw [Section.response, answered] at response
  exact Fifo.closed_of_isReported response careless reported

/-- The work of a failing caller: it closes the queue and changes nothing else. -/
theorem worked_of_failureWork {q : Queue α} (sound : q.state.Sound q.config)
    : q.Worked none q.failureWork
      ∧ q.failureWork.state.fifo q.config = { q.fifo with closed := true }
      ∧ q.failureWork.result = .answered .sinkFailed
      ∧ canFail q.failureWork.events = false := by
  have quiet : canFail q.failureWork.events = false := by
    simp only [failureWork, recover_eq, Guarded.closeOnFailure, Guarded.close,
      Section.andThen, canFail, List.any_append]
    cases q.alarmed <;> cases q.recovered.closed <;> rfl
  have shut : q.failureWork.state = { q.state with closed := true } := by
    rw [failureWork, recover_eq]
    rfl
  have result : q.failureWork.result = .answered .sinkFailed := rfl
  refine ⟨?_, by rw [shut]; rfl, result, quiet⟩
  have closed : q.failureWork.state.closed = true := by rw [shut]
  refine ⟨?_, fun _ => closed, ?_, ?_, ?_, ?_, ?_, ?_⟩
  · rw [shut]
    exact ⟨sound.valid, sound.capacity⟩
  · intro side
    rw [shut, result]
    cases side <;> simp [settled, Guarded.waiters, Waiters.after, Waiters.notify,
      Answer.admits, Answer.handedOut, Answer.isAccepted]
  · intro side count _
    rw [shut]
    simp only [failureWork, recover_eq, Guarded.closeOnFailure, Guarded.close,
      Section.andThen, List.foldl_append, List.append_nil, if_true]
    cases side <;> rfl
  · intro side time waits
    cases result.symm.trans waits
  · intro side
    rw [shut, result]
    cases side <;> rfl
  · intro side isOpen
    cases closed.symm.trans isOpen
  · intro loud
    cases quiet.symm.trans loud

end Queue

end Conduit
