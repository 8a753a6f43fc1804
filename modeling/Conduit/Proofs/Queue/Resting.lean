import Conduit.Proofs.Queue.Closing
import Conduit.Proofs.Queue.Wakeups

/-! A single operation at an open queue where everybody rests.
Since nobody else has been woken before, the wakeups of the operation reach exactly the
sleepers that its answer admits, or all of them if it closes the queue.
-/

namespace Conduit

variable {α : Type}

namespace Queue

/-- Nothing goes on at a queue: the lock is free and whoever is in a call sleeps. -/
structure Quiescent (q : Queue α) : Prop where
  free : q.holder = none
  rests : ∀ {thread phase}, q.phase? thread = some phase → phase.rests = true

theorem Quiescent.outside {q : Queue α} (quiet : q.Quiescent) {thread : Nat} {phase : Phase α}
    (found : q.phase? thread = some phase)
    : phase.isInside = false := by
  have rests := quiet.rests found
  cases phase <;> first | rfl | cases rests

/-- A queue at which nothing goes on cannot go on by itself. -/
theorem Quiescent.stalled {q : Queue α} (quiet : q.Quiescent) : q.Stalled := by
  intro now thread move works
  cases step : q.step? now thread move with
  | none => rfl
  | some progress =>
    have never
        : ∀ {phase : Phase α}, q.phase? thread = some phase → phase.rests = false → False := by
      intro phase found awake
      cases (quiet.rests found).symm.trans awake
    cases Transition.of_step? step with
    | begins | stirs => cases works
    | inspects here | refuses here | cleansUp here | ends here | sleeps here =>
      exact absurd rfl (never here)
    | fails here reports | failsGuarded here reports | failsAgain here reports =>
      rcases Phase.cases_of_atSink? reports with ⟨_, rfl⟩ | ⟨_, rfl⟩ <;>
        exact absurd rfl (never here)
    | enters sleptOn door | stumbles sleptOn door =>
      cases sleptOn <;> exact absurd rfl (never door)

-----------------------------------------------------------------------------------------
-- An open queue at which nothing goes on
-----------------------------------------------------------------------------------------

/-- What holds at an open queue at which nothing goes on: the sleepers alone are counted,
there is nothing for them to do, and they are all of one side.
-/
structure Resting (q : Queue α) : Prop where
  orderly : q.Orderly
  quiet : q.Quiescent
  isOpen : q.fifo.closed = false
  woken : ∀ side, q.woken side = 0
  joined : ∀ side, q.joined side = q.parked side
  waiting : ∀ side, (q.state.waiters side).waiting = q.parked side
  tracked : ∀ side, q.Tracked side
  nothing : ∀ side, 0 < q.parked side → q.fifo.available side = 0
  oneSide : ∀ side, 0 < q.parked side → q.parked side.other = 0

theorem Run.resting {slotBytes threads : Nat} {clock : Clock} {config : Config} {values : List α}
    {fresh q : Queue α} {history : List (Turn α)}
    (created : (ofConfigAndItems slotBytes config (.ofList values)).result = .ok fresh)
    (run : Run (fresh.withThreads clock threads) history q) (quiet : q.Quiescent)
    (isOpen : q.fifo.closed = false)
    : q.Resting := by
  have orderly := run.orderly created
  have stalled : q.Stalled := quiet.stalled
  have woken := fun side => stalled.woken_eq orderly side
  have joined := fun side => orderly.joined_eq quiet.free side
  have tracked := fun side => run.tracked created side
  have nothing : ∀ side, 0 < q.parked side → q.fifo.available side = 0 := by
    intro side anybody
    have enough := run.attended created side isOpen (by rw [joined]; exact anybody)
    rw [woken] at enough
    exact Nat.le_zero.mp enough
  refine ⟨orderly, quiet, isOpen, woken, joined, fun side => ?_, tracked, nothing,
    fun side anybody => ?_⟩
  · have total := (tracked side).total (fifo_closed_eq_false.mp isOpen).2
    have enough := (tracked side).enough
    rw [woken, joined] at total
    rw [joined] at enough
    omega
  · refine Nat.le_zero.mp (Nat.not_lt.mp fun other => ?_)
    have here := nothing side anybody
    have there := nothing side.other other
    have positive := orderly.positive
    cases side <;> simp only [Fifo.available, Side.other, fifo] at here there <;> omega

/-- A thread that moves without joining the sleepers or leaving the woken ones changes no
count.
-/
theorem counts_kept {q after : Queue α} {thread : Nat} {old new : Phase α}
    (found : q.phase? thread = some old) (phases : after.phases = q.phases.set thread new)
    (stays
      : ∀ side, old.hasJoined side = new.hasJoined side ∧ old.isWoken side = new.isWoken side)
    (side : Side)
    : after.joined side = q.joined side ∧ after.woken side = q.woken side := by
  obtain ⟨joins, wakes⟩ := counts_set found phases side
  rw [(stays side).1] at joins
  rw [(stays side).2] at wakes
  exact ⟨Nat.add_right_cancel joins, Nat.add_right_cancel wakes⟩

-----------------------------------------------------------------------------------------
-- What the operation has done to the queue
-----------------------------------------------------------------------------------------

/-- Whether an operation that ends so has closed the queue: it is a close, or the sink has
failed under a thread that was not failing before.
-/
def Shuts (operation : Operation α) (failing : Bool) (answer : Answer α) : Prop :=
  operation = .close ∨ answer = .sinkFailed ∧ failing = false

/-- What an operation of `thread` that ends with `answer` has made of the resting queue `q`:
it has woken as many sleepers as can go on, or all of them if the queue is closed, and moved
the values that the answer tells of. Only a close or a failure of the sink closes the queue,
and a failure does not if the thread was failing before.
-/
structure Performed (q : Queue α) (thread : Nat) (operation : Operation α) (failing : Bool)
    (answer : Answer α) (after : Queue α) : Prop where
  others
    : ∀ {other},
        other ≠ thread
        → after.phase? other = q.phase? other
          ∨ ∃ side call,
            q.phase? other = some (.parked side call)
            ∧ after.phase? other = some (.woken side call)
  total : ∀ side, after.joined side + after.woken side = q.parked side
  woken
    : ∀ side,
        after.woken side
        = if after.state.closed then q.parked side else min (q.parked side) (answer.admits side)
  available
    : ∀ side,
        after.fifo.available side + answer.admits side.other
        = q.fifo.available side + answer.admits side
  elements
    : q.state.ring.toList ++ answer.accepted operation
      = answer.handedOut ++ after.state.ring.toList
  offers : answer.isAccepted = true → ∃ value, operation.offered? = some value
  empties : ∀ values, answer = .drained values → after.state.ring.toList = []
  closed : after.fifo.closed = true ↔ Shuts operation failing answer
  closes : operation = .close → answer = .done ∨ answer = .sinkFailed

section
variable {q m : Queue α} {thread : Nat} {operation : Operation α} {failing : Bool}
  {answer : Answer α}

/-- An answer that moves no value, of an operation that has not taken the lock. -/
theorem Resting.unmoved (resting : q.Resting) (refused : answer.isAccepted = false)
    (nothing : answer.handedOut = []) (tells : ∀ values, answer ≠ .drained values)
    (keeps : ¬(operation = .close ∨ answer = .sinkFailed))
    : q.Performed thread operation failing answer q := by
  have none : ∀ side, answer.admits side = 0 := by
    intro side
    cases side <;> simp [Answer.admits, refused, nothing]
  refine ⟨fun _ => Or.inl rfl, fun side => ?_, fun side => ?_, fun side => ?_, ?_, ?_,
    fun values same => absurd same (tells values), ?_,
    fun closes => absurd (Or.inl closes) keeps⟩
  · rw [resting.joined, resting.woken, Nat.add_zero]
  · rw [resting.woken, (fifo_closed_eq_false.mp resting.isOpen).1, none]
    simp
  · rw [none, none]
  · rw [nothing, accepted_of_refused refused, List.append_nil, List.nil_append]
  · intro accepted
    cases refused.symm.trans accepted
  · exact iff_of_false (by simp [resting.isOpen]) fun shuts => keeps (shuts.imp_right And.left)

/-- A thread that has called and given its answer without the lock has left no trace. -/
theorem setPhase_back (idle : q.phase? thread = some .idle) (phase : Phase α)
    : (q.setPhase thread phase).setPhase thread .idle = q := by
  obtain ⟨within, here⟩ := List.getElem?_eq_some_iff.mp idle
  have same : (q.phases.set thread phase).set thread .idle = q.phases := by
    rw [List.set_set, ← here, List.set_getElem_self]
  exact congrArg (fun phases => { q with phases }) same

/-- A thread that has just called is in no count. -/
theorem Resting.counts_arrived (resting : q.Resting) (idle : q.phase? thread = some .idle)
    (call : Call α) (side : Side)
    : (q.setPhase thread (.arrived call)).joined side = q.parked side
      ∧ (q.setPhase thread (.arrived call)).woken side = 0 := by
  have kept : (q.setPhase thread (.arrived call)).phases = q.phases.set thread _ := rfl
  obtain ⟨joined, woken⟩ := counts_kept idle kept (fun _ => ⟨rfl, rfl⟩) side
  exact ⟨joined.trans (resting.joined side), woken.trans (resting.woken side)⟩

/-- The work of a call keeps everybody who slept in the counts. It wakes all of them if it
finds or leaves the queue closed, and otherwise as many as its answer admits.
-/
theorem Resting.counts_of_work (resting : q.Resting) (idle : q.phase? thread = some .idle)
    {call : Call α} (orderly : (q.setPhase thread (.arrived call)).Orderly)
    {visit : Section α (Outcome α)}
    (worked : (q.setPhase thread (.arrived call)).Worked none visit)
    (result : visit.result = .answered answer) (preferred : List Nat) (side : Side)
    : let after :=
        ((q.setPhase thread (.arrived call)).enterWith thread call preferred visit).queue
      after.joined side + after.woken side = q.parked side
        ∧ after.woken side
          = if visit.state.closed then q.parked side
            else min (q.parked side) (answer.admits side) := by
  intro after
  obtain ⟨left, moved⟩ := orderly.counts_enterWith resting.quiet.free
    (phase?_setPhase_self idle (.arrived call)) (fun _ => rfl) call preferred visit side
  obtain ⟨joined, woken⟩ := resting.counts_arrived idle call side
  have waiting
      : ((q.setPhase thread (.arrived call)).settled none side).waiting = q.parked side :=
    resting.waiting side
  have silent : q.state.closed = true → q.parked side = 0 := by
    intro closed
    cases (fifo_closed_eq_false.mp resting.isOpen).1.symm.trans closed
  rw [joined, worked.asleep side _ silent, waiting, result] at left
  rw [joined, woken, result] at moved
  have total : after.joined side + after.woken side = q.parked side := moved
  have asleep
      : after.joined side
        = if visit.state.closed then 0
          else q.parked side - min (q.parked side) (answer.admits side) := left
  refine ⟨total, ?_⟩
  split at asleep
  · rename_i closed
    rw [if_pos closed]
    omega
  · rename_i isOpen
    rw [if_neg isOpen]
    omega

/-- An operation that has done its work under the lock. -/
theorem Resting.performed_of_work (resting : q.Resting) (idle : q.phase? thread = some .idle)
    {call : Call α} (orderly : (q.setPhase thread (.arrived call)).Orderly) (now : Nat)
    (preferred : List Nat)
    (result
      : ((q.setPhase thread (.arrived call)).work now call none).result = .answered answer)
    : q.Performed thread call.operation failing answer
        ((q.setPhase thread (.arrived call)).enterWith thread call preferred
          ((q.setPhase thread (.arrived call)).work now call none)).queue := by
  obtain ⟨worked, answered⟩ :=
    worked_of_work orderly.sound now call none fun none => by cases none
  have response := answered.response
  rw [Section.response, result] at response
  have served := Fifo.served_of_serve response
  have list := fifo_enterWith worked thread call preferred
  have counts := resting.counts_of_work idle orderly worked result preferred
  refine ⟨?others, fun side => (counts side).1, fun side => (counts side).2, ?available,
    ?elements, ?offers, ?empties, ?closed, ?closes⟩
  case others =>
    intro other different
    rw [← phase?_setPhase_other q different (.arrived call)]
    exact phase?_enterWith_other different
  case available =>
    intro side
    rw [list]
    have available := worked.available side
    rw [result] at available
    exact available
  case elements => exact served.order
  case offers =>
    intro accepted
    cases offers : call.operation.offered? with
    | none => cases (served.unoffered offers).symm.trans accepted
    | some value => exact ⟨value, rfl⟩
  case empties =>
    rintro values rfl
    exact Fifo.tells_of_serve response
  case closed =>
    have still : (q.setPhase thread (.arrived call)).fifo.closed = false := resting.isOpen
    rw [list, served.closed, still, Bool.false_or]
    constructor
    · intro closes
      refine Or.inl ?_
      cases operation : call.operation <;> rw [operation] at closes <;>
        first | rfl | cases closes
    · rintro (closes | ⟨rfl, _⟩)
      · rw [closes]
        rfl
      · exact False.elim (Fifo.tells_of_serve response)
  case closes =>
    intro closes
    rw [closes] at response
    exact Or.inl (Fifo.Response.answers.inj response).1.symm

/-- The thread gives the lock back: its call goes on to the answer, or the sink fails in the
event that reports it, which poisons the lock unless the thread was failing before.
-/
theorem Performed.release (performed : q.Performed thread operation failing answer m)
    {old : Phase α}
    (found : m.phase? thread = some old) (new : Phase α)
    (stays
      : ∀ side, old.hasJoined side = new.hasJoined side ∧ old.isWoken side = new.isWoken side)
    (given : Answer α) (poisoned : Bool)
    (how
      : given = answer ∧ poisoned = m.poisoned
        ∨ given = .sinkFailed ∧ answer.isReported = true ∧ poisoned = (m.poisoned || !failing))
    : q.Performed thread operation failing given
        ({ m with holder := none, poisoned := poisoned }.setPhase thread new) := by
  have values : given.isAccepted = answer.isAccepted ∧ given.handedOut = answer.handedOut := by
    rcases how with ⟨rfl, _⟩ | ⟨rfl, reported, _⟩
    · exact ⟨rfl, rfl⟩
    · obtain ⟨refused, nothing⟩ := Answer.isReported_values reported
      exact ⟨refused.symm, nothing.symm⟩
  obtain ⟨accepts, hands⟩ := values
  have admits : ∀ side, given.admits side = answer.admits side := by
    intro side
    cases side <;> simp [Answer.admits, accepts, hands]
  have phases
      : ({ m with holder := none, poisoned := poisoned }.setPhase thread new).phases
        = m.phases.set thread new := rfl
  have counts := counts_kept found phases stays
  refine ⟨?_, fun side => ?_, fun side => ?_, fun side => ?_, ?_, accepts ▸ performed.offers,
    ?_, ?_, ?_⟩
  · intro other different
    rw [phase?_setPhase_other _ different]
    exact performed.others different
  · rw [(counts side).1, (counts side).2]
    exact performed.total side
  · rw [(counts side).2, admits]
    exact performed.woken side
  · rw [admits, admits]
    exact performed.available side
  · have elements := performed.elements
    rw [Answer.accepted, ← accepts, ← hands] at elements
    exact elements
  · rintro values rfl
    rcases how with ⟨same, _⟩ | ⟨same, _⟩
    · exact performed.empties values same.symm
    · cases same
  · rcases how with ⟨rfl, rfl⟩ | ⟨rfl, reported, rfl⟩
    · exact performed.closed
    · cases failing with
      | false =>
        refine iff_of_true ?_ (Or.inr ⟨rfl, rfl⟩)
        exact fifo_closed_of_poisoned (Bool.or_true _)
      | true =>
        have kept
            : ({ m with holder := none, poisoned := m.poisoned || !true }.setPhase thread
                  new).fifo.closed
              = m.fifo.closed := by
          change (m.state.closed || (m.poisoned || false)) = (m.state.closed || m.poisoned)
          rw [Bool.or_false]
        rw [kept, performed.closed]
        simp [Shuts]
  · rcases how with ⟨rfl, _⟩ | ⟨rfl, _⟩
    · exact performed.closes
    · exact fun _ => Or.inr rfl

/-- A thread under which the sink has failed has closed the queue and woken whoever still
slept.
-/
theorem Performed.cleanUp (performed : q.Performed thread operation false .sinkFailed m)
    (orderly : m.Orderly) (tracked : ∀ side, m.Tracked side) (free : m.holder = none)
    {asks call : Call α} (failing : m.phase? thread = some (.failing asks))
    (preferred : List Nat)
    : q.Performed thread operation false .sinkFailed
        (m.enterWith thread call preferred m.failureWork).queue := by
  obtain ⟨worked, shut, result, _⟩ := worked_of_failureWork orderly.sound
  have list := fifo_enterWith worked thread call preferred
  rw [shut] at list
  have closed : m.failureWork.state.closed = true := congrArg Fifo.closed shut
  have counts
      : ∀ side,
          (m.enterWith thread call preferred m.failureWork).queue.joined side = 0
          ∧ (m.enterWith thread call preferred m.failureWork).queue.woken side
            = q.parked side := by
    intro side
    obtain ⟨left, moved⟩ :=
      orderly.counts_enterWith free failing (fun _ => rfl) call preferred m.failureWork side
    have total := performed.total side
    rw [worked.asleep side _ (tracked side).silent, if_pos closed, result] at left
    rw [left, result] at moved
    simp only [Outcome.isWait, Phase.isWoken, Bool.toNat_false, Nat.add_zero, Nat.zero_add]
      at left moved
    exact ⟨left, moved.trans total⟩
  refine ⟨?_, fun side => ?_, fun side => ?_, fun side => ?_, ?_, performed.offers, ?_,
    iff_of_true (by rw [list]) (Or.inr ⟨rfl, rfl⟩), performed.closes⟩
  · intro other different
    have before := performed.others different
    rcases phase?_enterWith_other different with same | ⟨side, sleeper, parked, woken⟩
    · rw [same]
      exact before
    · refine Or.inr ⟨side, sleeper, ?_, woken⟩
      rcases before with same | ⟨_, _, _, awake⟩
      · exact same.symm.trans parked
      · cases parked.symm.trans awake
  · rw [(counts side).1, (counts side).2, Nat.zero_add]
  · rw [(counts side).2]
    exact (if_pos closed).symm
  · have available := performed.available side
    rw [list]
    cases side <;> exact available
  · have elements := performed.elements
    have same := congrArg Fifo.elements list
    exact elements.trans (congrArg _ same.symm)
  · intro values same
    cases same

end

-----------------------------------------------------------------------------------------
-- The operation step by step
-----------------------------------------------------------------------------------------

/-- How far the one operation of `thread` has come, by where the thread is. The thread may
have gone to sleep, from which only another one could wake it.
-/
def Performing (q : Queue α) (thread : Nat) (operation : Operation α) (failing : Bool)
    (told : List (Answer α)) (after : Queue α)
    : Phase α → Prop
  | .arrived call =>
    told = []
    ∧ call.operation = operation
    ∧ call.alreadyFailing = failing
    ∧ after = q.setPhase thread (.arrived call)
  | .inside call (.answered answer) reporting =>
    told = []
    ∧ call.operation = operation
    ∧ (reporting = true → call.alreadyFailing = failing)
    ∧ q.Performed thread operation failing answer after
  | .failing call =>
    told = []
    ∧ call.operation = operation
    ∧ failing = false
    ∧ q.Performed thread operation failing .sinkFailed after
  | .idle => ∃ answer, told = [answer] ∧ q.Performed thread operation failing answer after
  | .inside _ (.waits ..) _ | .parked .. => told = []
  | .woken .. | .stumbling .. => False

section
variable {q m : Queue α} {thread : Nat} {operation : Operation α} {failing : Bool}

/-- Where the sink can fail under the operation, it has done its work and reports it. -/
theorem Performing.atSink {told : List (Answer α)} {phase : Phase α}
    (performing : q.Performing thread operation failing told m phase) (orderly : m.Orderly)
    {call : Call α} (here : m.phase? thread = some phase) (reports : phase.atSink? = some call)
    : ∃ answer,
        phase = .inside call (.answered answer) true
        ∧ told = []
        ∧ operation = call.operation
        ∧ call.alreadyFailing = failing
        ∧ answer.isReported = true
        ∧ q.Performed thread operation failing answer m := by
  rcases Phase.cases_of_atSink? reports with ⟨outcome, rfl⟩ | ⟨sleptOn, rfl⟩
  · obtain ⟨answer, rfl, reported⟩ := orderly.answered_of_reporting here
    obtain ⟨told, asks, same, performed⟩ := performing
    exact ⟨answer, rfl, told, asks.symm, same rfl, reported, performed⟩
  · exact False.elim performing

/-- Every step brings the operation further, by cases on what its thread does. -/
theorem Performing.step {told : List (Answer α)} {phase : Phase α}
    (performing : q.Performing thread operation failing told m phase) (resting : q.Resting)
    (idle : q.phase? thread = some .idle) (orderly : m.Orderly)
    (tracked : ∀ side, m.Tracked side) {now : Nat} {move : Move α} {progress : Progress α}
    (transition : m.Transition now thread move progress) (work : move.isWork = true)
    (found : m.phase? thread = some phase)
    : ∃ new,
        progress.queue.phase? thread = some new
        ∧ q.Performing thread operation failing (told ++ progress.answer.toList) progress.queue
            new := by
  cases transition with
  | begins | stirs => cases work
  | @inspects preferred call property arrived asks =>
    obtain rfl := Option.some.inj (found.symm.trans arrived)
    obtain ⟨rfl, rfl, _, rfl⟩ := performing
    refine ⟨_, phase?_setPhase_self arrived _, _, rfl, ?_⟩
    obtain ⟨nothing, refused⟩ := handedOut_of_inspect (α := α) q.config property
    rw [setPhase_back idle]
    refine resting.unmoved refused nothing ?_ ?_
    · intro values same
      cases property <;> cases same
    · rintro (closes | fails)
      · cases asks.symm.trans closes
      · cases property <;> cases fails
  | refuses arrived held =>
    obtain rfl := Option.some.inj (found.symm.trans arrived)
    obtain ⟨rfl, rfl, _, rfl⟩ := performing
    cases resting.quiet.free.symm.trans held
  | @enters preferred call sleptOn door free locks =>
    obtain rfl := Option.some.inj (found.symm.trans door)
    cases sleptOn with
    | some side => exact False.elim performing
    | none =>
      obtain ⟨rfl, rfl, same, rfl⟩ := performing
      refine ⟨_, phase?_enterWith_self door, ?_⟩
      unfold entered
      cases result : ((q.setPhase thread (.arrived call)).work now call none).result with
      | waits side time => rfl
      | answered answer =>
        exact ⟨rfl, rfl, fun _ => same,
          resting.performed_of_work idle orderly now preferred result⟩
  | @cleansUp preferred call failing free =>
    obtain rfl := Option.some.inj (found.symm.trans failing)
    obtain ⟨rfl, rfl, rfl, performed⟩ := performing
    obtain ⟨_, _, result, quiet⟩ := worked_of_failureWork orderly.sound
    refine ⟨_, phase?_enterWith_self failing, ?_⟩
    unfold entered
    rw [result, quiet]
    exact ⟨rfl, rfl, (fun loud => by cases loud),
      performed.cleanUp orderly tracked free failing preferred⟩
  | @ends call answer reporting inside =>
    obtain rfl := Option.some.inj (found.symm.trans inside)
    obtain ⟨rfl, rfl, _, performed⟩ := performing
    refine ⟨_, phase?_setPhase_self inside _, answer, rfl, ?_⟩
    exact performed.release inside .idle (fun _ => ⟨rfl, rfl⟩) answer m.poisoned
      (Or.inl ⟨rfl, rfl⟩)
  | sleeps inside =>
    obtain rfl := Option.some.inj (found.symm.trans inside)
    obtain rfl := performing
    exact ⟨_, phase?_setPhase_self inside _, rfl⟩
  | @stumbles call sleptOn door free locks alarmed =>
    obtain rfl := Option.some.inj (found.symm.trans door)
    cases sleptOn with
    | some side => exact False.elim performing
    | none =>
      obtain ⟨_, _, _, rfl⟩ := performing
      have poisoned : q.poisoned = true := (Bool.and_eq_true_iff.mp alarmed).1
      cases (fifo_closed_eq_false.mp resting.isOpen).2.symm.trans poisoned
  | fails here reports healthy | failsAgain here reports healthy =>
    obtain rfl := Option.some.inj (found.symm.trans here)
    obtain ⟨answer, rfl, rfl, rfl, same, reported, performed⟩ :=
      performing.atSink orderly here reports
    rw [← same, healthy] at performed ⊢
    refine ⟨_, phase?_setPhase_self here _, .sinkFailed, rfl, ?_⟩
    exact performed.release here .idle (fun _ => ⟨rfl, rfl⟩) .sinkFailed _
      (Or.inr ⟨rfl, reported, by simp⟩)
  | @failsGuarded call phase here reports healthy =>
    obtain rfl := Option.some.inj (found.symm.trans here)
    obtain ⟨answer, rfl, rfl, rfl, same, reported, performed⟩ :=
      performing.atSink orderly here reports
    rw [← same, healthy] at performed ⊢
    refine ⟨_, phase?_setPhase_self here _, rfl, rfl, rfl, ?_⟩
    exact performed.release here (.failing call) (fun _ => ⟨rfl, rfl⟩) .sinkFailed true
      (Or.inr ⟨rfl, reported, by simp⟩)

/-- The operation is on its way after every step that its thread makes, by induction on
them.
-/
theorem Resting.performing (resting : q.Resting) {now : Nat} {first : Progress α}
    (begins : q.step? now thread (.call operation failing) = some first)
    {works : List (Turn α)} (performs : Run first.queue works m)
    (alone : ∀ turn ∈ works, turn.thread = thread ∧ turn.move.isWork = true)
    : m.Orderly
      ∧ (∀ side, m.Tracked side)
      ∧ ∃ phase,
        m.phase? thread = some phase
        ∧ q.Performing thread operation failing (repliesTo works thread) m phase := by
  have arrives := Transition.of_step? begins
  induction performs with
  | start =>
    refine ⟨resting.orderly.transition arrives, fun side => ?_, ?_⟩
    · exact (resting.tracked side).shift resting.orderly (resting.orderly.shift arrives)
    · cases arrives with
      | begins idle => exact ⟨_, phase?_setPhase_self idle _, rfl, rfl, rfl, rfl⟩
  | @step history m turn before made ih =>
    obtain ⟨orderly, tracked, phase, found, performing⟩ :=
      ih fun turn member => alone turn (List.mem_append_left _ member)
    obtain ⟨same, work⟩ :=
      alone turn (List.mem_append_right _ (List.mem_singleton_self turn))
    subst same
    have transition := Transition.of_step? made
    refine ⟨orderly.transition transition, fun side => ?_, ?_⟩
    · exact (tracked side).shift orderly (orderly.shift transition)
    · have idle : q.phase? turn.thread = some .idle := by
        cases arrives with
        | begins idle => exact idle
      rw [repliesTo_step_self]
      exact performing.step resting idle orderly tracked transition work found

/-- An operation that has ended has done what its answer says, and has given the lock back. -/
theorem Resting.performed (resting : q.Resting) {now : Nat} {first : Progress α}
    (begins : q.step? now thread (.call operation failing) = some first)
    {works : List (Turn α)} (performs : Run first.queue works m)
    (alone : ∀ turn ∈ works, turn.thread = thread ∧ turn.move.isWork = true)
    {answer : Answer α} (answered : repliesTo works thread = [answer])
    : m.Orderly
      ∧ (∀ side, m.Tracked side)
      ∧ m.holder = none
      ∧ m.phase? thread = some .idle
      ∧ q.Performed thread operation failing answer m := by
  obtain ⟨orderly, tracked, phase, found, performing⟩ :=
    resting.performing begins performs alone
  rw [answered] at performing
  have ended
      : phase = .idle ∧ q.Performed thread operation failing answer m := by
    cases phase with
    | idle =>
      obtain ⟨given, same, performed⟩ := performing
      obtain rfl := (List.cons.inj same).1
      exact ⟨rfl, performed⟩
    | inside call outcome reporting =>
      cases outcome with
      | answered => cases performing.1
      | waits => cases performing
    | arrived | failing => cases performing.1
    | parked => cases performing
    | woken | stumbling => exact False.elim performing
  obtain ⟨rfl, performed⟩ := ended
  refine ⟨orderly, tracked, ?_, found, performed⟩
  cases held : m.holder with
  | none => rfl
  | some holder =>
    obtain ⟨phase, here, inside⟩ := orderly.held held
    have different : holder ≠ thread := by
      intro same
      subst same
      obtain rfl := Option.some.inj (found.symm.trans here)
      cases inside
    rcases performed.others different with same | ⟨_, _, _, woken⟩
    · cases (resting.quiet.outside (same.symm.trans here)).symm.trans inside
    · obtain rfl := Option.some.inj (here.symm.trans woken)
      cases inside

end

end Queue

end Conduit
