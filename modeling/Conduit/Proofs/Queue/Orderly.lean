import Conduit.Proofs.Queue.Transitions
import Conduit.Proofs.Queue.Work

/-! The discipline of the lock, kept by every step of every thread.
At most one thread is inside, which is the one that the lock names, and where a thread is
tells what its operation waits for and what it can still report.
-/

namespace Conduit

variable {α : Type}

theorem Phase.isInside_of_atSink? {phase : Phase α} {call : Call α}
    (reports : phase.atSink? = some call)
    : phase.isInside = true := by
  rcases Phase.cases_of_atSink? reports with ⟨outcome, rfl⟩ | ⟨sleptOn, rfl⟩ <;> rfl

/-- Whether the thread has yet to close the queue after a failure. -/
def Phase.isFailing : Phase α → Bool
  | .failing _ => true
  | _ => false

namespace Queue

-----------------------------------------------------------------------------------------
-- Where threads are after a step
-----------------------------------------------------------------------------------------

theorem phase?_setPhase_self {q : Queue α} {thread : Nat} {old : Phase α}
    (found : q.phase? thread = some old) (new : Phase α)
    : (q.setPhase thread new).phase? thread = some new :=
  List.getElem?_set_self (List.getElem?_eq_some_iff.mp found).1

theorem phase?_setPhase_other (q : Queue α) {thread other : Nat} (different : other ≠ thread)
    (new : Phase α) : (q.setPhase thread new).phase? other = q.phase? other :=
  List.getElem?_set_ne (Ne.symm different)

/-- A phase that is found after a thread has moved is its new one, or another thread's old
one.
-/
theorem phase?_setPhase_cases {q : Queue α} {thread other : Nat} {new phase : Phase α}
    (found : (q.setPhase thread new).phase? other = some phase)
    : (other = thread ∧ phase = new) ∨ (other ≠ thread ∧ q.phase? other = some phase) := by
  by_cases same : other = thread
  · subst same
    have within : other < (q.phases.set other new).length :=
      (List.getElem?_eq_some_iff.mp found).1
    rw [List.length_set] at within
    have moved : (q.setPhase other new).phase? other = some new :=
      List.getElem?_set_self within
    exact Or.inl ⟨rfl, Option.some.inj (found.symm.trans moved)⟩
  · exact Or.inr ⟨same, by rw [← phase?_setPhase_other q same new]; exact found⟩

section
variable {q : Queue α} {thread : Nat} {call : Call α} {preferred : List Nat}
  {done : Section α (Outcome α)}

/-- The phase of a thread that has taken the lock. -/
def entered (call : Call α) (done : Section α (Outcome α)) : Phase α :=
  .inside call done.result (canFail done.events)

theorem phase?_enterWith_self {old : Phase α} (found : q.phase? thread = some old)
    : (q.enterWith thread call preferred done).queue.phase? thread
      = some (entered call done) := by
  have roused := roused_foldl_deliver preferred done.wakes q.phases thread
  have some
      : ∃ phase, (done.wakes.foldl (deliver preferred) q.phases)[thread]? = some phase := by
    rcases roused with same | ⟨side, woken, _, delivered⟩
    · exact ⟨old, same.trans found⟩
    · exact ⟨_, delivered⟩
  obtain ⟨phase, delivered⟩ := some
  exact List.getElem?_set_self (List.getElem?_eq_some_iff.mp delivered).1

/-- When a thread takes the lock, any other thread stays where it is or is woken. -/
theorem phase?_enterWith_other {other : Nat} (different : other ≠ thread)
    : (q.enterWith thread call preferred done).queue.phase? other = q.phase? other
      ∨ ∃ side asleep,
          q.phase? other = some (.parked side asleep)
          ∧ (q.enterWith thread call preferred done).queue.phase? other
            = some (.woken side asleep) := by
  have kept
      : (q.enterWith thread call preferred done).queue.phase? other
        = (done.wakes.foldl (deliver preferred) q.phases)[other]? :=
    List.getElem?_set_ne (Ne.symm different)
  rw [kept]
  exact roused_foldl_deliver preferred done.wakes q.phases other

end

/-- A step of one thread leaves every other thread where it is, unless it wakes it. -/
theorem Transition.others {q : Queue α} {now thread other : Nat} {move : Move α}
    {progress : Progress α} (transition : q.Transition now thread move progress)
    (different : other ≠ thread)
    : progress.queue.phase? other = q.phase? other
      ∨ ∃ side call,
          q.phase? other = some (.parked side call)
          ∧ progress.queue.phase? other = some (.woken side call) := by
  cases transition with
  | enters | cleansUp => exact phase?_enterWith_other different
  | _ => exact Or.inl (phase?_setPhase_other _ different _)

/-- Whoever moves has a place at the queue, before and after. -/
theorem Transition.present {q : Queue α} {now thread : Nat} {move : Move α}
    {progress : Progress α} (transition : q.Transition now thread move progress)
    : ∃ old new,
        q.phase? thread = some old ∧ progress.queue.phase? thread = some new := by
  cases transition with
  | enters _ found | cleansUp found => exact ⟨_, _, found, phase?_enterWith_self found⟩
  | begins found | inspects found | refuses found | ends found | sleeps found
  | stumbles _ found | fails found | failsGuarded found | failsAgain found | stirs found =>
    exact ⟨_, _, found, phase?_setPhase_self found _⟩

/-- Whoever gets its answer has no call in progress any more. -/
theorem Transition.idle_of_answer {q : Queue α} {now thread : Nat} {move : Move α}
    {progress : Progress α} (transition : q.Transition now thread move progress)
    {answer : Answer α} (answered : progress.answer = some answer)
    : progress.queue.phase? thread = some .idle := by
  cases transition with
  | inspects here | refuses here | ends here | fails here | failsAgain here =>
    exact phase?_setPhase_self here _
  | begins | sleeps | stirs | enters | cleansUp | stumbles | failsGuarded => cases answered

-----------------------------------------------------------------------------------------
-- The discipline
-----------------------------------------------------------------------------------------

/-- What is known about a thread from where it is. -/
def Fits (q : Queue α) (thread : Nat) : Phase α → Prop
  | .inside call (.answered answer) reporting =>
    q.holder = some thread
    ∧ (reporting = true
      → answer.isReported = true
        ∧ (call.operation.closesOnFailure = false → q.state.closed = true))
  | .inside call (.waits side _) reporting =>
    q.holder = some thread
    ∧ reporting = false
    ∧ call.operation.side? = some side
    ∧ q.fifo.closed = false
    ∧ q.fifo.available side = 0
  | .parked side call | .woken side call => call.operation.side? = some side
  | .stumbling sleptOn call =>
    q.holder = some thread
    ∧ q.alarmed = true
    ∧ ∀ {side}, sleptOn = some side → call.operation.side? = some side
  | .failing _ => q.poisoned = true
  | .idle | .arrived _ => True

/-- The lock is held by the one thread that is inside, the ring is intact, and a poisoned lock
either has been seen to or will be by the thread that failed.
-/
structure Orderly (q : Queue α) : Prop where
  sound : q.state.Sound q.config
  positive : 0 < q.config.capacity
  fits : ∀ {thread phase}, q.phase? thread = some phase → q.Fits thread phase
  held
    : ∀ {thread},
        q.holder = some thread → ∃ phase, q.phase? thread = some phase ∧ phase.isInside = true
  excused
    : q.poisoned = true
      → q.state.closed = true ∨ ∃ thread call, q.phase? thread = some (.failing call)

theorem Fits.holder {q : Queue α} {thread : Nat} {phase : Phase α}
    (fits : q.Fits thread phase) (inside : phase.isInside = true)
    : q.holder = some thread := by
  cases phase with
  | inside call outcome reporting => cases outcome <;> exact fits.1
  | stumbling => exact fits.1
  | _ => cases inside

theorem Orderly.outside {q : Queue α} (orderly : q.Orderly) (free : q.holder = none)
    {thread : Nat} {phase : Phase α} (found : q.phase? thread = some phase)
    : phase.isInside = false := by
  rw [Bool.eq_false_iff]
  intro inside
  cases free.symm.trans ((orderly.fits found).holder inside)

/-- Nobody but its holder is inside while the lock is held. -/
theorem Orderly.alone {q : Queue α} (orderly : q.Orderly) {thread other : Nat}
    (held : q.holder = some thread) (different : other ≠ thread) {phase : Phase α}
    (found : q.phase? other = some phase)
    : phase.isInside = false := by
  rw [Bool.eq_false_iff]
  intro inside
  have holder := (orderly.fits found).holder inside
  exact different (Option.some.inj (holder.symm.trans held))

/-- Whoever can fail in the sink is not going to sleep. -/
theorem Orderly.answered_of_reporting {q : Queue α} (orderly : q.Orderly) {thread : Nat}
    {call : Call α} {outcome : Outcome α}
    (inside : q.phase? thread = some (.inside call outcome true))
    : ∃ answer, outcome = .answered answer ∧ answer.isReported = true := by
  have known := orderly.fits inside
  cases outcome with
  | answered answer => exact ⟨answer, rfl, (known.2 rfl).1⟩
  | waits side time => cases known.2.1

/-- Where the sink can fail without the queue being closed for it, the queue is closed already
or somebody else has failed before.
-/
theorem Orderly.shut_of_careless {q : Queue α} (orderly : q.Orderly) {thread : Nat}
    {phase : Phase α} {call : Call α} (here : q.phase? thread = some phase)
    (reports : phase.atSink? = some call)
    (careless : call.operation.closesOnFailure = false)
    : q.state.closed = true ∨ q.poisoned = true := by
  rcases Phase.cases_of_atSink? reports with ⟨outcome, rfl⟩ | ⟨sleptOn, rfl⟩
  · obtain ⟨answer, rfl, _⟩ := orderly.answered_of_reporting here
    exact Or.inl (((orderly.fits here).2 rfl).2 careless)
  · exact Or.inr (Bool.and_eq_true_iff.mp (orderly.fits here).2.1).1

theorem Orderly.came {q : Queue α} (orderly : q.Orderly) {thread : Nat} {call : Call α}
    {sleptOn : Option Side} (door : q.phase? thread = some (call.atDoor sleptOn)) {side : Side}
    (slept : sleptOn = some side)
    : call.operation.side? = some side := by
  subst slept
  exact orderly.fits door

/-- What is known about a thread that is not inside does not depend on the lock. -/
theorem Fits.outside {q after : Queue α} {thread : Nat} {phase : Phase α}
    (fits : q.Fits thread phase) (outside : phase.isInside = false)
    (poison : q.poisoned = true → after.poisoned = true)
    : after.Fits thread phase := by
  cases phase with
  | inside | stumbling => cases outside
  | failing => exact poison fits
  | _ => exact fits

-----------------------------------------------------------------------------------------
-- Three kinds of change
-----------------------------------------------------------------------------------------

/-- A thread that is not inside moves to another such place. -/
theorem Orderly.move {q : Queue α} (orderly : q.Orderly) {thread : Nat} {old new : Phase α}
    (found : q.phase? thread = some old) (outside : old.isInside = false)
    (healthy : old.isFailing = false) (stays : new.isInside = false)
    (fits : q.Fits thread new)
    : (q.setPhase thread new).Orderly where
  sound := orderly.sound
  positive := orderly.positive
  fits := by
    intro other phase after
    rcases phase?_setPhase_cases after with ⟨rfl, rfl⟩ | ⟨_, before⟩
    · cases phase with
      | inside | stumbling => cases stays
      | _ => exact fits
    · have known := orderly.fits before
      cases phase with
      | inside call outcome reporting => cases outcome <;> exact known
      | _ => exact known
  -- The thread was neither inside nor failing: whoever is must be another one.
  held := by
    intro holder held
    obtain ⟨phase, here, inside⟩ := orderly.held held
    have different : holder ≠ thread := by
      intro same
      subst same
      obtain rfl := Option.some.inj (found.symm.trans here)
      cases outside.symm.trans inside
    exact ⟨phase, (phase?_setPhase_other q different new).trans here, inside⟩
  excused := by
    intro poisoned
    refine (orderly.excused poisoned).imp_right fun cause => ?_
    obtain ⟨failed, call, failing⟩ := cause
    have different : failed ≠ thread := by
      intro same
      subst same
      obtain rfl := Option.some.inj (found.symm.trans failing)
      cases healthy
    exact ⟨failed, call, (phase?_setPhase_other q different new).trans failing⟩

/-- The thread that is inside gives the lock back, in order or by failing. -/
theorem Orderly.release {q : Queue α} (orderly : q.Orderly) {thread : Nat} {old : Phase α}
    (found : q.phase? thread = some old) (inside : old.isInside = true) {poisoned : Bool}
    {new : Phase α} (stays : new.isInside = false)
    (poison : q.poisoned = true → poisoned = true)
    (fits : { q with holder := none, poisoned := poisoned }.Fits thread new)
    (excused
      : poisoned = true → q.poisoned = true ∨ q.state.closed = true ∨ new.isFailing = true)
    : ({ q with holder := none, poisoned := poisoned }.setPhase thread new).Orderly where
  sound := orderly.sound
  positive := orderly.positive
  fits := by
    intro other phase after
    rcases phase?_setPhase_cases after with ⟨rfl, rfl⟩ | ⟨different, before⟩
    · cases phase with
      | inside | stumbling => cases stays
      | _ => exact fits
    · have held := (orderly.fits found).holder inside
      have outside := orderly.alone held different before
      exact (orderly.fits before).outside outside poison
  held := fun held => by cases held
  excused := by
    intro failed
    have kept
        : q.poisoned = true
          → q.state.closed = true
            ∨ ∃ other call,
                ({ q with holder := none, poisoned := poisoned }.setPhase thread new).phase?
                    other
                  = some (.failing call) := by
      intro before
      refine (orderly.excused before).imp_right fun cause => ?_
      obtain ⟨other, call, failing⟩ := cause
      have different : other ≠ thread := by
        intro same
        subst same
        obtain rfl := Option.some.inj (found.symm.trans failing)
        cases inside
      exact ⟨other, call, (phase?_setPhase_other _ different new).trans failing⟩
    rcases excused failed with before | closed | failing
    · exact kept before
    · exact Or.inl closed
    · cases new with
      | failing call => exact Or.inr ⟨thread, call, phase?_setPhase_self found _⟩
      | _ => cases failing

/-- A thread takes the free lock and does its work. -/
theorem Orderly.enter {q : Queue α} (orderly : q.Orderly) (free : q.holder = none)
    {thread : Nat} {old : Phase α} (found : q.phase? thread = some old)
    {sleptOn : Option Side} {done : Section α (Outcome α)} (worked : q.Worked sleptOn done)
    {call : Call α} {preferred : List Nat}
    (fits : (q.enterWith thread call preferred done).queue.Fits thread (entered call done))
    : (q.enterWith thread call preferred done).queue.Orderly where
  sound := worked.sound
  positive := orderly.positive
  fits := by
    intro other phase after
    by_cases same : other = thread
    · subst same
      obtain rfl := Option.some.inj ((phase?_enterWith_self found).symm.trans after)
      exact fits
    · rcases phase?_enterWith_other same with kept | ⟨side, asleep, parked, woken⟩
      · rw [kept] at after
        exact (orderly.fits after).outside (orderly.outside free after) id
      · obtain rfl := Option.some.inj (woken.symm.trans after)
        exact orderly.fits parked
  held := by
    intro holder held
    obtain rfl := Option.some.inj held
    exact ⟨_, phase?_enterWith_self found, rfl⟩
  excused := by
    intro poisoned
    exact Or.inl (worked.closed (fifo_closed_of_poisoned poisoned))

/-- A thread takes the free lock of a queue that another one has yet to close. -/
theorem Orderly.stumble {q : Queue α} (orderly : q.Orderly) (free : q.holder = none)
    {thread : Nat} {call : Call α} {sleptOn : Option Side}
    (door : q.phase? thread = some (call.atDoor sleptOn)) (alarmed : q.alarmed = true)
    : (q.stumbleWith thread sleptOn call).queue.Orderly where
  sound := orderly.sound
  positive := orderly.positive
  fits := by
    intro other phase after
    rcases phase?_setPhase_cases after with ⟨rfl, rfl⟩ | ⟨_, before⟩
    · exact ⟨rfl, alarmed, orderly.came door⟩
    · exact (orderly.fits before).outside (orderly.outside free before) id
  held := by
    intro holder held
    obtain rfl := Option.some.inj held
    exact ⟨_, phase?_setPhase_self door _, rfl⟩
  excused := by
    intro poisoned
    refine (orderly.excused poisoned).imp_right fun cause => ?_
    obtain ⟨failed, other, failing⟩ := cause
    have different : failed ≠ thread := by
      intro same
      subst same
      cases sleptOn <;> cases door.symm.trans failing
    exact ⟨failed, other, (phase?_setPhase_other _ different _).trans failing⟩

-----------------------------------------------------------------------------------------
-- Every step keeps the discipline
-----------------------------------------------------------------------------------------

/-- Work leaves a closed queue closed, so that poison adds nothing to what it leaves behind.
-/
theorem fifo_enterWith {q : Queue α} {sleptOn : Option Side}
    {done : Section α (Outcome α)} (worked : q.Worked sleptOn done) (thread : Nat)
    (call : Call α) (preferred : List Nat)
    : (q.enterWith thread call preferred done).queue.fifo = done.state.fifo q.config := by
  have closed : (done.state.closed || q.poisoned) = done.state.closed := by
    cases poisoned : q.poisoned with
    | false => exact Bool.or_false _
    | true => rw [worked.closed (fifo_closed_of_poisoned poisoned), Bool.true_or]
  simp only [fifo, enterWith, Guarded.fifo, closed]

/-- A caller that has to wait leaves the list as it has met it. -/
theorem fifo_of_waits {q : Queue α} {now : Nat} {call : Call α} {sleptOn : Option Side}
    {done : Section α (Outcome α)} (worked : q.Worked sleptOn done)
    (answered : q.Answered now call done) {side : Side} {time : Option Nat}
    (result : done.result = .waits side time)
    : done.state.fifo q.config = q.fifo := by
  have closed := (worked.waits result).trans (worked.wasOpen (worked.waits result)).symm
  have elements := congrArg Ring.toList (answered.kept result)
  simp only [Guarded.fifo, fifo] at closed ⊢
  rw [closed, elements]

/-- What is known about a thread that has done its work: it can report only what moved no
value, and if it has to wait, the other side has not yet done its part.
-/
theorem fits_entered {q : Queue α} {now : Nat} {call : Call α} {sleptOn : Option Side}
    {done : Section α (Outcome α)} (worked : q.Worked sleptOn done)
    (answered : q.Answered now call done) (thread : Nat) (preferred : List Nat)
    : (q.enterWith thread call preferred done).queue.Fits thread (entered call done) := by
  have response := answered.response
  rw [Section.response] at response
  unfold entered
  cases result : done.result with
  | answered answer =>
    refine ⟨rfl, fun loud => ⟨?_, answered.careless loud⟩⟩
    obtain ⟨given, same, reported⟩ := worked.quiet loud
    obtain rfl := Outcome.answered.inj (result.symm.trans same)
    exact reported
  | waits side time =>
    rw [result] at response
    obtain ⟨waiter, _, _, nothing⟩ := Fifo.serve_eq_waits response
    refine ⟨rfl, ?_, waiter, ?_, ?_⟩
    · rw [Bool.eq_false_iff]
      intro loud
      obtain ⟨answer, same, _⟩ := worked.quiet loud
      cases result.symm.trans same
    · rw [fifo_enterWith worked]
      exact worked.waits result
    · rw [fifo_enterWith worked, available_of_ring (answered.kept result), nothing]

/-- Every step keeps the discipline, by cases on what the thread does. -/
theorem Orderly.transition {q : Queue α} (orderly : q.Orderly) {now thread : Nat}
    {move : Move α} {progress : Progress α}
    (transition : q.Transition now thread move progress)
    : progress.queue.Orderly := by
  cases transition with
  | begins idle => exact orderly.move idle rfl rfl rfl trivial
  | inspects arrived asks => exact orderly.move arrived rfl rfl rfl trivial
  | refuses arrived held busy => exact orderly.move arrived rfl rfl rfl trivial
  | @enters preferred call sleptOn door free locks =>
    obtain ⟨worked, answered⟩ :=
      worked_of_work orderly.sound now call sleptOn (orderly.came door)
    exact orderly.enter free door worked (fits_entered worked answered thread preferred)
  | cleansUp failing free =>
    obtain ⟨worked, _, result, quiet⟩ := worked_of_failureWork orderly.sound
    refine orderly.enter free failing worked ?_
    rw [entered, result, quiet]
    exact ⟨rfl, fun loud => by cases loud⟩
  | stumbles sleptOn door free locks alarmed => exact orderly.stumble free door alarmed
  | ends inside => exact orderly.release inside rfl rfl id trivial Or.inl
  | sleeps inside =>
    exact orderly.release inside rfl rfl id (orderly.fits inside).2.2.1 Or.inl
  | @fails call phase here reports healthy careless =>
    have inside := Phase.isInside_of_atSink? reports
    refine orderly.release here inside rfl (fun _ => rfl) trivial fun _ => ?_
    exact (orderly.shut_of_careless here reports careless).symm.imp_right Or.inl
  | failsGuarded here reports healthy careful =>
    have inside := Phase.isInside_of_atSink? reports
    exact orderly.release here inside rfl (fun _ => rfl) rfl fun _ => Or.inr (Or.inr rfl)
  | failsAgain here reports unwinding =>
    exact orderly.release here (Phase.isInside_of_atSink? reports) rfl id trivial Or.inl
  | stirs parked =>
    have sleeper := orderly.fits parked
    exact orderly.move parked rfl rfl rfl sleeper

end Queue

end Conduit
