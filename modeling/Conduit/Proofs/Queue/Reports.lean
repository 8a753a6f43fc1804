import Conduit.Proofs.Queue.FailStop

/-! What a step reports, and what it has done to the queue by then.
Three places in a call can close the queue and say so, but of the work of one call only one of
them does: the lock is seen to first, and a thread that cleans up finds the lock poisoned by
itself.
-/

namespace Conduit

variable {α : Type}

/-- Whether an event reports that the queue has been closed, by a call or after a failure. -/
def Event.isClosing : Event → Bool
  | .closed .. => true
  | event => event.level = .error

/-- Whether an event reports a wait whose time was up. -/
def Event.isExpiry : Event → Bool
  | .pushExpired _ | .popExpired _ => true
  | _ => false

theorem Event.isClosing_of_isExpiry {event : Event} (expiry : event.isExpiry = true)
    : event.isClosing = false := by
  cases event <;> first | rfl | cases expiry

/-- Whether an answer tells its caller that its time was up. -/
def Answer.tellsTimedOut : Answer α → Bool
  | .push (.error (.timedOut _)) | .pop (.error .timedOut) => true
  | _ => false

/-- Whether a stretch of work gives up a wait. -/
def Outcome.givesUp : Outcome α → Bool
  | .answered answer => answer.tellsTimedOut
  | .waits .. => false

/-- Whether a thread has given up its wait and has yet to tell its caller. -/
def Phase.givesUp : Phase α → Bool
  | .inside _ outcome _ => outcome.givesUp
  | _ => false

/-- A wait is given up at an open list only, when its time is up, and leaves the list alone.
-/
theorem Fifo.timedOut_of_serve {f after : Fifo α} {expired : Bool} {operation : Operation α}
    {answer : Answer α} (served : f.serve expired operation = .answers answer after)
    (late : answer.tellsTimedOut = true)
    : f.closed = false
      ∧ expired = true
      ∧ after = f
      ∧ operation.side?.isSome = true
      ∧ operation.closesOnFailure = true := by
  cases operation with
  | waitPush value timeout =>
    simp only [serve, push] at served
    repeat' split at served
    all_goals cases served
    all_goals cases late
    rename_i isOpen _ timed
    exact ⟨Bool.eq_false_iff.mpr isOpen, timed, rfl, rfl, rfl⟩
  | waitPop timeout =>
    simp only [serve, pop] at served
    repeat' split at served
    all_goals cases served
    all_goals cases late
    rename_i isOpen timed
    exact ⟨Bool.eq_false_iff.mpr isOpen, timed, rfl, rfl, rfl⟩
  | tryPush value | nonblockingPush value =>
    simp only [serve, push] at served
    repeat' split at served
    all_goals cases served
    all_goals cases late
  | tryPop | nonblockingPop =>
    simp only [serve, pop] at served
    repeat' split at served
    all_goals cases served
    all_goals cases late
  | drain | close | isClosed | isEmpty | isFull | length =>
    cases served
    cases late
  | inspect property =>
    cases served
    cases property <;> cases late

/-- Only a call to close the queue ends with nothing but that it is done. -/
theorem Fifo.close_of_done {f after : Fifo α} {deadline : Option Nat} {now : Nat}
    {operation : Operation α}
    (served : f.serve (expired deadline now) operation = .answers .done after)
    : operation = .close := by
  rcases reported_cases served rfl with ⟨closes, _⟩ | ⟨_, _, ⟨_, _, _, push⟩ | ⟨_, _, pop⟩⟩
  · exact closes
  · cases push
  · cases pop

namespace Queue

-----------------------------------------------------------------------------------------
-- What the work of a call reports
-----------------------------------------------------------------------------------------

/-- The work of a call reports that it has found a poisoned lock at an open queue, that it has
closed the open queue or that its time was up at one, or nothing. The flag is changed in the
first two cases only.
-/
inductive Reports (q : Queue α) (now : Nat) (call : Call α) (done : Section α (Outcome α))
    : Prop
  | alarm (poisoned : q.poisoned = true) (wasOpen : q.state.closed = false)
    (events : done.events = [.lockPoisoned]) (closed : done.state.closed = true)
    (stays : done.result.givesUp = false)
  | closing (isOpen : q.fifo.closed = false) (asks : call.operation = .close)
    (events : done.events = [.closed q.config.label q.state.ring.length])
    (closed : done.state.closed = true) (stays : done.result.givesUp = false)
  | expiry {event} (isOpen : q.fifo.closed = false)
    (late : expired call.deadline now = true)
    (events : done.events = [event]) (tells : event.isExpiry = true)
    (kept : done.state.closed = false) (gives : done.result.givesUp = true)
  | nothing (events : done.events = []) (kept : done.state.closed = q.state.closed)
    (stays : done.result.givesUp = false)

/-- The events of the work of a call are those of seeing to the lock and of its attempt. -/
theorem events_of_work {q : Queue α} (sound : q.state.Sound q.config) (now : Nat)
    (call : Call α) (sleptOn : Option Side)
    : (q.work now call sleptOn).events
      = (if q.alarmed then [.lockPoisoned] else [])
        ++ (q.ready sleptOn).eventsOf q.config (q.work now call sleptOn).result := by
  have attempted := ready_attempted sound now call sleptOn
  simp only [work_eq, prepared, attempted.events]

/-- The flag that the work of a call leaves behind, by whether it is asked to close. -/
theorem closed_of_work {q : Queue α} (sound : q.state.Sound q.config) (now : Nat)
    (call : Call α) (sleptOn : Option Side)
    : (q.work now call sleptOn).state.closed = (q.fifo.closed || call.operation.isClose) := by
  have attempted := ready_attempted sound now call sleptOn
  rw [work_eq]
  rcases attempted_closed attempted with ⟨_, flag⟩ | ⟨⟨side, time, waits⟩, isOpen, flag⟩
  · exact flag.trans (by rw [ready_closed]; rfl)
  · have response := attempted.response
    rw [Section.response, waits] at response
    have waiter := (Fifo.serve_eq_waits response).1
    rw [ready_closed] at isOpen
    refine flag.trans ?_
    cases operation : call.operation <;> rw [operation] at waiter <;> cases waiter
    all_goals exact ((Bool.or_false _).trans isOpen).symm

/-- An attempt that gives up its wait reports just that. -/
theorem eventsOf_of_givesUp (s : Guarded α) (config : Config) {outcome : Outcome α}
    (gives : outcome.givesUp = true)
    : ∃ event, s.eventsOf config outcome = [event] ∧ event.isExpiry = true := by
  unfold Guarded.eventsOf
  split
  · exact ⟨_, rfl, rfl⟩
  · exact ⟨_, rfl, rfl⟩
  · cases gives
  · rename_i push pop _
    unfold Outcome.givesUp Answer.tellsTimedOut at gives
    split at gives
    · split at gives
      · exact absurd rfl (push _)
      · exact absurd rfl pop
      · cases gives
    · cases gives

/-- An attempt that gives up no wait reports at most that it has closed an open queue. -/
theorem eventsOf_of_stays (s : Guarded α) (config : Config) {outcome : Outcome α}
    (stays : outcome.givesUp = false)
    : ((outcome = .answered .done → s.closed = true) ∧ s.eventsOf config outcome = [])
      ∨ outcome = .answered .done
        ∧ s.closed = false
        ∧ s.eventsOf config outcome = [.closed config.label s.ring.length] := by
  unfold Guarded.eventsOf
  split
  · cases stays
  · cases stays
  · cases closed : s.closed with
    | true => exact Or.inl ⟨fun _ => rfl, rfl⟩
    | false => exact Or.inr ⟨rfl, rfl, rfl⟩
  · rename_i other
    exact Or.inl ⟨fun done => absurd done other, rfl⟩

/-- The work of a close ends with its being done. -/
theorem Orderly.done_of_close {q : Queue α} (orderly : q.Orderly) (now : Nat) {thread : Nat}
    {call : Call α} {sleptOn : Option Side}
    (door : q.phase? thread = some (call.atDoor sleptOn))
    (closes : call.operation = .close)
    : (q.work now call sleptOn).result = .answered .done := by
  have response :=
    (worked_of_work orderly.sound now call sleptOn (orderly.came door)).2.response
  rw [Section.response, closes] at response
  cases result : (q.work now call sleptOn).result with
  | waits =>
    rw [result] at response
    cases response
  | answered answer =>
    rw [result] at response
    obtain ⟨rfl, _⟩ := Fifo.Response.answers.inj response
    rfl

/-- What the work of a call reports, by whether it has met the queue open and, if so, by
whether it gives up its wait.
-/
theorem Orderly.reports {q : Queue α} (orderly : q.Orderly) (now : Nat) {thread : Nat}
    {call : Call α} {sleptOn : Option Side}
    (door : q.phase? thread = some (call.atDoor sleptOn))
    : q.Reports now call (q.work now call sleptOn) := by
  have events := events_of_work orderly.sound now call sleptOn
  have flag := closed_of_work orderly.sound now call sleptOn
  have response :=
    (worked_of_work orderly.sound now call sleptOn (orderly.came door)).2.response
  rw [Section.response] at response
  have ready : (q.ready sleptOn).closed = q.fifo.closed := q.ready_closed sleptOn
  cases gives : (q.work now call sleptOn).result.givesUp with
  | true =>
    cases result : (q.work now call sleptOn).result with
    | waits side time =>
      rw [result] at gives
      cases gives
    | answered answer =>
      rw [result] at response gives
      obtain ⟨isOpen, timed, same, _⟩ := Fifo.timedOut_of_serve response gives
      obtain ⟨wasOpen, healthy⟩ := fifo_closed_eq_false.mp isOpen
      have stopped : (Outcome.answered answer).givesUp = true := gives
      obtain ⟨event, reported, tells⟩ :=
        eventsOf_of_givesUp (q.ready sleptOn) q.config stopped
      rw [result, reported, alarmed, healthy] at events
      have kept : (q.work now call sleptOn).state.closed = false :=
        (congrArg Fifo.closed same).trans isOpen
      exact .expiry isOpen timed events tells kept (by rw [result]; exact gives)
  | false =>
    rcases eventsOf_of_stays (q.ready sleptOn) q.config gives with
      ⟨shut, silent⟩ | ⟨done, isOpen, reported⟩
    · rw [silent, List.append_nil] at events
      cases wasOpen : q.state.closed with
      | true =>
        exact .nothing (by simpa [alarmed, wasOpen] using events)
          (by simp [flag, fifo, wasOpen]) gives
      | false =>
        cases poisoned : q.poisoned with
        | true =>
          exact .alarm poisoned wasOpen (by simpa [alarmed, wasOpen, poisoned] using events)
            (by simp [flag, fifo, poisoned]) gives
        | false =>
          -- A close would not have been silent.
          have stays : call.operation.isClose = false := by
            cases operation : call.operation with
            | close =>
              have closed := ready.symm.trans (shut (orderly.done_of_close now door operation))
              simp [fifo, wasOpen, poisoned] at closed
            | _ => rfl
          exact .nothing (by simpa [alarmed, poisoned] using events)
            (by simp [flag, fifo, wasOpen, poisoned, stays]) gives
    · rw [ready] at isOpen
      obtain ⟨wasOpen, healthy⟩ := fifo_closed_eq_false.mp isOpen
      rw [done] at response
      have asks := Fifo.close_of_done response
      rw [reported, alarmed, healthy, ready_ring] at events
      refine .closing isOpen asks events ?_ gives
      rw [flag, asks]
      exact Bool.or_true _

/-- A thread that cleans up after its failure finds a poisoned lock, so that it is the lock
that it reports, and nothing else.
-/
theorem events_of_failureWork {q : Queue α} (poisoned : q.poisoned = true)
    : q.failureWork.state.closed = true
      ∧ q.failureWork.events = if q.state.closed then [] else [.lockPoisoned] := by
  rw [failureWork, recover_eq]
  refine ⟨rfl, ?_⟩
  cases closed : q.state.closed <;>
    simp [Section.andThen, Guarded.closeOnFailure, Guarded.close, recovered, alarmed, poisoned,
      closed]

-----------------------------------------------------------------------------------------
-- What a step reports
-----------------------------------------------------------------------------------------

/-- A step reports a closing if it sets the flag, once, and not otherwise, unless the sink is
about to fail in that report.
-/
theorem Orderly.closings {q : Queue α} (orderly : q.Orderly) {now thread : Nat} {move : Move α}
    {progress : Progress α} (transition : q.Transition now thread move progress)
    (steady : move.isStumble = false)
    : q.state.closed.toNat + progress.events.countP Event.isClosing
      = progress.queue.state.closed.toNat := by
  cases transition with
  | @enters preferred call sleptOn door free locks =>
    simp only [enterWith]
    cases orderly.reports now door with
    | alarm _ wasOpen events closed =>
      simp [wasOpen, events, closed, Event.isClosing, Event.level]
    | closing isOpen _ events closed =>
      simp [(fifo_closed_eq_false.mp isOpen).1, events, closed, Event.isClosing]
    | expiry isOpen _ events tells kept =>
      have quiet := Event.isClosing_of_isExpiry tells
      simp [(fifo_closed_eq_false.mp isOpen).1, events, kept, quiet]
    | nothing events kept => simp [events, kept]
  | @cleansUp preferred call failing free =>
    obtain ⟨closed, events⟩ := events_of_failureWork (orderly.fits failing)
    simp only [enterWith, closed, events]
    cases q.state.closed <;> rfl
  | stumbles => cases steady
  | _ => rfl

/-- The step of a call to close a queue that it finds open, with a lock that nobody has
poisoned.
-/
def Closes (q : Queue α) (turn : Turn α) : Prop :=
  (∃ call preferred,
      q.phase? turn.thread = some (.arrived call)
      ∧ call.operation = .close
      ∧ turn.move = .enter preferred)
    ∧ q.holder = none
    ∧ q.fifo.closed = false

/-- Whoever reports a closing has either found the lock poisoned, or been asked to close. -/
theorem Orderly.closing_cases {q : Queue α} (orderly : q.Orderly) {turn : Turn α}
    (transition : q.Transition turn.now turn.thread turn.move turn.progress) {event : Event}
    (member : event ∈ turn.progress.events) (closing : event.isClosing = true)
    : q.state.closed = false
      ∧ (q.poisoned = true ∧ event = .lockPoisoned
        ∨ q.Closes turn ∧ event = .closed q.config.label q.state.ring.length) := by
  obtain ⟨now, thread, move, progress⟩ := turn
  simp only at transition member
  cases transition with
  | @enters preferred call sleptOn door free locks =>
    simp only [enterWith] at member
    cases orderly.reports now door with
    | alarm poisoned wasOpen events =>
      rw [events] at member
      exact ⟨wasOpen, Or.inl ⟨poisoned, List.mem_singleton.mp member⟩⟩
    | closing isOpen asks events =>
      rw [events] at member
      refine ⟨(fifo_closed_eq_false.mp isOpen).1, Or.inr ⟨⟨?_, free, isOpen⟩,
        List.mem_singleton.mp member⟩⟩
      cases sleptOn with
      | none => exact ⟨call, preferred, door, asks, rfl⟩
      | some side =>
        have waits := orderly.came door rfl
        rw [asks] at waits
        cases waits
    | expiry _ _ events tells =>
      rw [events] at member
      obtain rfl := List.mem_singleton.mp member
      cases (Event.isClosing_of_isExpiry tells).symm.trans closing
    | nothing events =>
      rw [events] at member
      cases member
  | @cleansUp preferred call failing free =>
    have poisoned : q.poisoned = true := orderly.fits failing
    simp only [enterWith, (events_of_failureWork poisoned).2] at member
    cases wasOpen : q.state.closed with
    | true => simp [wasOpen] at member
    | false => exact ⟨rfl, Or.inl ⟨poisoned, by simpa [wasOpen] using member⟩⟩
  | stumbles _ _ _ _ alarmed =>
    obtain ⟨poisoned, isOpen⟩ := Bool.and_eq_true_iff.mp alarmed
    exact ⟨by simpa using isOpen, Or.inl ⟨poisoned, List.mem_singleton.mp member⟩⟩
  | _ => cases member

/-- A call to close a queue that it finds open reports it and leaves the elements alone. -/
theorem Orderly.reports_close {q : Queue α} (orderly : q.Orderly) {turn : Turn α}
    (transition : q.Transition turn.now turn.thread turn.move turn.progress)
    (closes : q.Closes turn)
    : turn.progress.events = [.closed q.config.label q.state.ring.length]
      ∧ turn.progress.queue.fifo = { q.fifo with closed := true } := by
  obtain ⟨⟨call, preferred, arrived, asks, move⟩, free, isOpen⟩ := closes
  obtain ⟨now, thread, _, progress⟩ := turn
  simp only at transition arrived move ⊢
  subst move
  cases transition with
  | inspects here inspection =>
    obtain rfl := Phase.arrived.inj (Option.some.inj (arrived.symm.trans here))
    cases asks.symm.trans inspection
  | refuses _ held => cases free.symm.trans held
  | cleansUp failing => cases arrived.symm.trans failing
  | @enters _ other sleptOn door =>
    cases sleptOn with
    | some side => cases arrived.symm.trans door
    | none =>
      obtain rfl := Phase.arrived.inj (Option.some.inj (arrived.symm.trans door))
      obtain ⟨worked, answered⟩ :=
        worked_of_work orderly.sound now call none (orderly.came door)
      have wasOpen := (fifo_closed_eq_false.mp isOpen).1
      have list
          : (q.work now call none).state.fifo q.config = { q.fifo with closed := true } := by
        have response := answered.response
        rw [asks, Section.response] at response
        cases result : (q.work now call none).result with
        | waits =>
          rw [result] at response
          cases response
        | answered answer =>
          rw [result] at response
          exact (Fifo.Response.answers.inj response).2.symm
      have shut : (q.work now call none).state.closed = true := congrArg Fifo.closed list
      refine ⟨?_, (fifo_enterWith worked ..).trans list⟩
      cases orderly.reports now door with
      | alarm poisoned => cases (fifo_closed_of_poisoned poisoned).symm.trans isOpen
      | closing _ _ events => exact events
      | expiry _ _ _ _ kept => cases kept.symm.trans shut
      | nothing _ kept => cases (kept.trans wasOpen).symm.trans shut

-----------------------------------------------------------------------------------------
-- Waits that have been given up
-----------------------------------------------------------------------------------------

/-- Whether the thread that holds the lock has given up its wait. -/
def givesUp (q : Queue α) : Bool := (q.holder.bind q.phase?).any Phase.givesUp

end Queue

/-- Whether the sink fails in this step under a wait, whose thread then has to clean up. -/
def Turn.failsInWait (turn : Turn α) : Bool :=
  turn.move.isFailure && (turn.progress.queue.phase? turn.thread).any Phase.isFailing

/-- Whether a step ends a wait whose time is up: the caller is told so, or the sink fails in
the event that reports it. The other event of its own work that a call can fail in is that of a
close, after which the queue is marked closed.
-/
def Turn.endsExpired (turn : Turn α) : Bool :=
  turn.progress.answer.any Answer.tellsTimedOut
  || turn.move.isFailure && !turn.progress.queue.state.closed

theorem Turn.endsExpired_of_healthy {turn : Turn α} (healthy : turn.move.isFailure = false)
    : turn.endsExpired = turn.progress.answer.any Answer.tellsTimedOut := by
  simp only [endsExpired, healthy, Bool.false_and, Bool.or_false]

namespace Queue

/-- What the thread that holds the lock has given up is told by where that thread is. -/
theorem Orderly.givesUp_eq {q : Queue α} (orderly : q.Orderly) {thread : Nat} {call : Call α}
    {outcome : Outcome α} {reporting : Bool}
    (inside : q.phase? thread = some (.inside call outcome reporting))
    : q.givesUp = outcome.givesUp := by
  have held := (orderly.fits inside).holder rfl
  simp [Queue.givesUp, held, inside, Phase.givesUp]

theorem givesUp_of_free {q : Queue α} (free : q.holder = none) : q.givesUp = false := by
  simp [givesUp, free]

/-- A thread that moves without ever being inside leaves whoever holds the lock where it is.
-/
theorem Orderly.givesUp_setPhase {q : Queue α} (orderly : q.Orderly) {thread : Nat}
    {old : Phase α} (found : q.phase? thread = some old) (outside : old.isInside = false)
    (new : Phase α)
    : (q.setPhase thread new).givesUp = q.givesUp := by
  cases held : q.holder with
  | none =>
    have same : (q.setPhase thread new).holder = none := held
    rw [givesUp_of_free same, givesUp_of_free held]
  | some holder =>
    obtain ⟨phase, here, inside⟩ := orderly.held held
    have different : holder ≠ thread := by
      intro same
      subst same
      obtain rfl := Option.some.inj (found.symm.trans here)
      cases inside.symm.trans outside
    have same : (q.setPhase thread new).holder = q.holder := rfl
    simp only [givesUp, same, held, Option.bind_some, phase?_setPhase_other q different]

theorem givesUp_enterWith {q : Queue α} {thread : Nat} {old : Phase α}
    (found : q.phase? thread = some old) (call : Call α) (preferred : List Nat)
    (done : Section α (Outcome α))
    : (q.enterWith thread call preferred done).queue.givesUp = done.result.givesUp := by
  have inside : (q.enterWith thread call preferred done).queue.phase? thread
      = some (.inside call done.result (canFail done.events)) := phase?_enterWith_self found
  have held : (q.enterWith thread call preferred done).queue.holder = some thread := rfl
  simp [givesUp, held, inside, Phase.givesUp]

theorem givesUp_stumbleWith {q : Queue α} {thread : Nat} {old : Phase α}
    (found : q.phase? thread = some old) (sleptOn : Option Side) (call : Call α)
    : (q.stumbleWith thread sleptOn call).queue.givesUp = false := by
  have stumbling : (q.stumbleWith thread sleptOn call).queue.phase? thread
      = some (.stumbling sleptOn call) := phase?_setPhase_self found _
  have held : (q.stumbleWith thread sleptOn call).queue.holder = some thread := rfl
  simp [givesUp, held, stumbling, Phase.givesUp]

/-- Whoever has given up a wait is inside a call with a deadline, at an open queue. -/
theorem Known.givesUp_cases {M : Fifo α → Prop} {q : Queue α} (known : q.Known M)
    {thread : Nat} {call : Call α} {answer : Answer α} {reporting : Bool}
    (inside : q.phase? thread = some (.inside call (.answered answer) reporting))
    (late : answer.tellsTimedOut = true)
    : q.fifo.closed = false
      ∧ (∃ tick, expired call.deadline tick = true)
      ∧ call.operation.side?.isSome = true
      ∧ call.operation.closesOnFailure = true := by
  rcases known.decided inside with ⟨met, now, _, served, _⟩ | ⟨rfl, _⟩
  · obtain ⟨isOpen, timed, same, waits, careful⟩ := Fifo.timedOut_of_serve served late
    rw [same]
    exact ⟨isOpen, ⟨now, timed⟩, waits, careful⟩
  · cases late

/-- Where the sink fails in an event of a call's own work, the call has given up its wait if the
queue is to be closed then, and otherwise has closed it.
-/
theorem Known.gaveUp_of_careful {M : Fifo α → Prop} {q : Queue α} (known : q.Known M)
    {thread : Nat} {phase : Phase α} {call : Call α} (here : q.phase? thread = some phase)
    (reports : phase.atSink? = some call)
    (upright : q.Upright)
    : ∃ answer,
        phase = .inside call (.answered answer) true
        ∧ answer.tellsTimedOut = call.operation.closesOnFailure
        ∧ answer.tellsTimedOut = !q.state.closed := by
  rcases known.atSink_cases here reports with
    ⟨met, now, answer, rfl, _, isOpen, served, reported⟩ | ⟨sleptOn, rfl, _⟩
  · have tells : answer.tellsTimedOut = call.operation.closesOnFailure := by
      rcases Fifo.reported_cases served reported with
        ⟨asks, rfl⟩ | ⟨_, _, ⟨value, timeout, asks, rfl⟩ | ⟨timeout, asks, rfl⟩⟩
      all_goals rw [asks]; rfl
    refine ⟨answer, rfl, tells, ?_⟩
    cases late : answer.tellsTimedOut with
    | true =>
      obtain ⟨isOpen, _⟩ := known.givesUp_cases here late
      rw [(fifo_closed_eq_false.mp isOpen).1]
      rfl
    | false =>
      rw [((known.orderly.fits here).2 rfl).2 (tells.symm.trans late)]
      rfl
  · cases upright thread sleptOn call here

/-- Every wait that is given up is reported when that happens and ended later on, by its
caller being told or by the sink failing in the report.
-/
theorem Known.expiries {M : Fifo α → Prop} {q : Queue α} (known : q.Known M) {turn : Turn α}
    (transition : q.Transition turn.now turn.thread turn.move turn.progress)
    (upright : q.Upright)
    : q.givesUp.toNat + turn.progress.events.countP Event.isExpiry
      = turn.endsExpired.toNat + turn.progress.queue.givesUp.toNat := by
  have orderly := known.orderly
  obtain ⟨now, thread, move, progress⟩ := turn
  simp only at transition ⊢
  -- Whoever gives the lock back leaves nobody behind who holds it.
  have released
      : ∀ (poisoned : Bool) (new : Phase α),
          ({ q with holder := none, poisoned := poisoned }.setPhase thread new).givesUp
          = false := fun _ _ => rfl
  cases transition with
  | begins here | stirs here =>
    rw [Turn.endsExpired_of_healthy rfl, orderly.givesUp_setPhase here rfl]
    exact Nat.add_comm ..
  | @inspects preferred call property here =>
    have silent : (q.config.inspect property : Answer α).tellsTimedOut = false := by
      cases property <;> rfl
    rw [Turn.endsExpired_of_healthy rfl, orderly.givesUp_setPhase here rfl]
    simp [silent]
  | @refuses preferred call holder answer here _ busy =>
    have silent : answer.tellsTimedOut = false := by
      cases operation : call.operation <;> rw [operation] at busy <;> cases busy <;> rfl
    rw [Turn.endsExpired_of_healthy rfl, orderly.givesUp_setPhase here rfl]
    simp [silent]
  | ends inside | sleeps inside =>
    rw [Turn.endsExpired_of_healthy rfl, orderly.givesUp_eq inside, released]
    rfl
  | fails here reports | failsGuarded here reports | failsAgain here reports =>
    obtain ⟨answer, rfl, _, late⟩ := known.gaveUp_of_careful here reports upright
    rw [orderly.givesUp_eq here, released, Outcome.givesUp, late]
    cases closed : q.state.closed <;>
      simp [Turn.endsExpired, Move.isFailure, Answer.tellsTimedOut, setPhase, closed]
  | stumbles sleptOn door free =>
    rw [givesUp_of_free free, givesUp_stumbleWith door, Turn.endsExpired_of_healthy rfl]
    rfl
  | @enters preferred call sleptOn door free locks =>
    rw [givesUp_of_free free, givesUp_enterWith door, Turn.endsExpired_of_healthy rfl]
    simp only [enterWith, Option.any_none, Bool.toNat_false, Nat.zero_add]
    cases orderly.reports now door with
    | alarm _ _ events _ stays | closing _ _ events _ stays =>
      rw [events, stays]
      rfl
    | expiry _ _ events tells _ gives => simp [events, tells, gives]
    | nothing events _ stays => simp [events, stays]
  | cleansUp failing free =>
    have result := (worked_of_failureWork orderly.sound).2.2.1
    rw [givesUp_of_free free, givesUp_enterWith failing, Turn.endsExpired_of_healthy rfl,
      result]
    simp only [enterWith, (events_of_failureWork (orderly.fits failing)).2]
    cases q.state.closed <;> rfl

end Queue

end Conduit
