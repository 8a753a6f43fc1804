import Conduit.Proofs.Queue.Ledger
import Conduit.Proofs.Queue.Refinement

/-! What a call ends with, and why.
An answer stands in the operation table for the list that its caller met under the lock,
unless the lock was not needed, was not waited for, or the sink has failed. So whatever all
the lists that are met have in common is known of every answer.
-/

namespace Conduit

variable {α : Type}

-----------------------------------------------------------------------------------------
-- What is known of a list whatever is done to it
-----------------------------------------------------------------------------------------

namespace Fifo

/-- A property of lists that neither an operation nor a failure of the sink puts an end to. -/
structure Stable (M : Fifo α → Prop) : Prop where
  serves
    : ∀ {f after : Fifo α} {expired operation answer},
        M f → f.serve expired operation = .answers answer after → M after
  fails : ∀ {f : Fifo α}, M f → M { f with closed := true }

theorem stable_true : Stable fun _ : Fifo α => True := ⟨fun _ _ => trivial, fun _ => trivial⟩

/-- A closed list stays closed. -/
theorem stable_closed : Stable fun f : Fifo α => f.closed = true where
  serves closed served := by
    rw [(served_of_serve served).closed, closed]
    rfl
  fails _ := rfl

/-- What an event reports is a close, or a wait that had a deadline and met an open list. -/
theorem reported_cases {f after : Fifo α} {deadline : Option Nat} {now : Nat}
    {operation : Operation α} {answer : Answer α}
    (served : f.serve (expired deadline now) operation = .answers answer after)
    (reported : answer.isReported = true)
    : (operation = .close ∧ answer = .done)
      ∨ deadline.isSome = true
        ∧ f.closed = false
        ∧ ((∃ value timeout,
              operation = .waitPush value timeout
              ∧ answer = .push (.error (.timedOut value)))
            ∨ (∃ timeout,
              operation = .waitPop timeout ∧ answer = .pop (.error .timedOut))) := by
  have timed : expired deadline now = true → deadline.isSome = true := by
    intro late
    cases deadline with
    | none => cases late
    | some tick => rfl
  cases operation with
  | waitPush value timeout =>
    simp only [serve, push] at served
    repeat' split at served
    all_goals cases served
    all_goals cases reported
    rename_i isOpen _ late
    exact Or.inr ⟨timed late, Bool.eq_false_iff.mpr isOpen, Or.inl ⟨value, timeout, rfl, rfl⟩⟩
  | waitPop timeout =>
    simp only [serve, pop] at served
    repeat' split at served
    all_goals cases served
    all_goals cases reported
    rename_i isOpen late
    exact Or.inr ⟨timed late, Bool.eq_false_iff.mpr isOpen, Or.inr ⟨timeout, rfl, rfl⟩⟩
  | tryPush value | nonblockingPush value =>
    simp only [serve, push] at served
    repeat' split at served
    all_goals cases served
    all_goals cases reported
  | tryPop | nonblockingPop =>
    simp only [serve, pop] at served
    repeat' split at served
    all_goals cases served
    all_goals cases reported
  | close =>
    cases served
    exact Or.inl ⟨rfl, rfl⟩
  | drain | isClosed | isEmpty | isFull | length =>
    cases served
    cases reported
  | inspect property =>
    cases served
    cases property <;> cases reported

end Fifo

namespace Queue

/-- A step leaves the list alone, does to it what one line of the table says, or closes it
because the sink has failed.
-/
theorem Orderly.fifo_cases {q : Queue α} (orderly : q.Orderly) {now thread : Nat}
    {move : Move α} {progress : Progress α}
    (transition : q.Transition now thread move progress)
    : progress.queue.fifo = q.fifo
      ∨ (∃ expired operation answer,
          q.fifo.serve expired operation = .answers answer progress.queue.fifo)
      ∨ progress.queue.fifo = { q.fifo with closed := true } := by
  cases transition with
  | begins | inspects | refuses | stumbles | ends | sleeps | failsAgain | stirs =>
    exact Or.inl rfl
  | fails | failsGuarded =>
    refine Or.inr (Or.inr ?_)
    change { q.fifo with closed := q.state.closed || true } = _
    rw [Bool.or_true]
  | @enters preferred call sleptOn door free locks =>
    obtain ⟨worked, answered⟩ :=
      worked_of_work orderly.sound now call sleptOn (orderly.came door)
    have response := answered.response
    rw [Section.response] at response
    rw [fifo_enterWith worked]
    cases result : (q.work now call sleptOn).result with
    | answered answer =>
      rw [result] at response
      exact Or.inr (Or.inl ⟨_, _, _, response⟩)
    | waits side time => exact Or.inl (fifo_of_waits worked answered result)
  | @cleansUp preferred call failing free =>
    obtain ⟨worked, shut, _, _⟩ := worked_of_failureWork orderly.sound
    refine Or.inr (Or.inr ?_)
    rw [fifo_enterWith worked, shut]

theorem Orderly.stable {q : Queue α} (orderly : q.Orderly) {now thread : Nat}
    {move : Move α} {progress : Progress α}
    (transition : q.Transition now thread move progress) {M : Fifo α → Prop}
    (stable : Fifo.Stable M) (meets : M q.fifo)
    : M progress.queue.fifo := by
  rcases orderly.fifo_cases transition with same | ⟨_, _, _, served⟩ | closed
  · rw [same]
    exact meets
  · exact stable.serves meets served
  · rw [closed]
    exact stable.fails meets

-----------------------------------------------------------------------------------------
-- Where the answer comes from that a thread is about to give
-----------------------------------------------------------------------------------------

/-- Nobody closes an open queue without reporting it or being about to fail: an event that the
sink can fail in comes from work that met the queue open.
-/
theorem open_of_canFail {q : Queue α} (sound : q.state.Sound q.config) {now : Nat}
    {call : Call α} {sleptOn : Option Side}
    (loud : canFail (q.work now call sleptOn).events = true)
    : q.fifo.closed = false := by
  have attempted := ready_attempted sound now call sleptOn
  have response := attempted.response
  rw [ready_fifo, Section.response] at response
  have events : canFail ((q.ready sleptOn).eventsOf q.config
      ((q.ready sleptOn).attempt q.config call.deadline now call.operation).result) = true := by
    rw [← attempted.events]
    rw [work_eq] at loud
    simp only [prepared, canFail, List.any_append, Bool.or_eq_true] at loud
    rcases loud with alarm | attempt
    · cases alarmed : q.alarmed <;> rw [alarmed] at alarm <;> cases alarm
    · exact attempt
  obtain ⟨answer, answered, reported⟩ := quiet_of_eventsOf _ _ events
  rw [answered] at response events
  rcases Fifo.reported_cases response reported with ⟨_, rfl⟩ | ⟨_, isOpen, _⟩
  · refine (q.ready_closed sleptOn).symm.trans ?_
    cases closed : (q.ready sleptOn).closed with
    | false => rfl
    | true => simp [Guarded.eventsOf, closed, canFail] at events
  · exact isOpen

/-- What is known about the answer that a thread is about to give. It stands in the table for
a list that its work met, of which `M` is known, and that was open if the sink can still fail.
Or the sink has failed before, and the thread has closed the queue.
-/
def Decided (M : Fifo α → Prop) (q : Queue α) : Phase α → Prop
  | .inside call (.answered answer) reporting =>
    (∃ met now,
      M met
      ∧ met.serve (expired call.deadline now) call.operation = .answers answer q.fifo
      ∧ (reporting = true → met.closed = false))
    ∨ (answer = .sinkFailed ∧ reporting = false ∧ q.fifo.closed = true)
  | _ => True

/-- An orderly queue of whose list `M` is known, now and whenever a caller now inside met
it.
-/
structure Known (M : Fifo α → Prop) (q : Queue α) : Prop where
  orderly : q.Orderly
  meets : M q.fifo
  decided : ∀ {thread phase}, q.phase? thread = some phase → q.Decided M phase

/-- Nothing needs to be known about a thread that is not inside. -/
theorem Decided.of_outside {M : Fifo α → Prop} (q : Queue α) {phase : Phase α}
    (outside : phase.isInside = false)
    : q.Decided M phase := by
  cases phase with
  | inside => cases outside
  | _ => trivial

/-- What is known about the threads that do not move in a step. -/
theorem Known.decided_other {M : Fifo α → Prop} {q : Queue α} (known : q.Known M)
    {now thread other : Nat} {move : Move α} {progress : Progress α}
    (transition : q.Transition now thread move progress) (different : other ≠ thread)
    {phase : Phase α} (found : progress.queue.phase? other = some phase)
    : progress.queue.Decided M phase := by
  rcases transition.others different with same | ⟨side, call, parked, woken⟩
  · rw [same] at found
    cases inside : phase.isInside with
    | false => exact .of_outside _ inside
    | true =>
      have kept := (known.orderly.undisturbed found inside (Ne.symm different) transition).2
      have decided := known.decided found
      cases phase with
      | inside call outcome reporting =>
        cases outcome with
        | answered answer =>
          unfold Decided at decided ⊢
          rw [kept]
          exact decided
        | waits => trivial
      | stumbling => trivial
      | _ => cases inside
  · obtain rfl := Option.some.inj (woken.symm.trans found)
    trivial

/-- What is known about the thread that moves in a step, by cases on what it does. -/
theorem Known.decided_self {M : Fifo α → Prop} {q : Queue α} (known : q.Known M)
    {now thread : Nat} {move : Move α} {progress : Progress α}
    (transition : q.Transition now thread move progress) {phase : Phase α}
    (found : progress.queue.phase? thread = some phase)
    : progress.queue.Decided M phase := by
  have orderly := known.orderly
  cases transition with
  | begins here | inspects here | refuses here | ends here | sleeps here | fails here
  | failsGuarded here | failsAgain here | stirs here =>
    obtain rfl := Option.some.inj (found.symm.trans (phase?_setPhase_self here _))
    trivial
  | stumbles sleptOn door =>
    obtain rfl := Option.some.inj (found.symm.trans (phase?_setPhase_self door _))
    trivial
  | @enters preferred call sleptOn door free locks =>
    obtain ⟨worked, answered⟩ :=
      worked_of_work orderly.sound now call sleptOn (orderly.came door)
    obtain rfl := Option.some.inj (found.symm.trans (phase?_enterWith_self door))
    have response := answered.response
    rw [Section.response] at response
    unfold entered
    cases result : (q.work now call sleptOn).result with
    | waits side time => trivial
    | answered answer =>
      rw [result] at response
      refine Or.inl ⟨q.fifo, now, known.meets, ?_, open_of_canFail orderly.sound⟩
      rw [fifo_enterWith worked]
      exact response
  | @cleansUp preferred call failing free =>
    obtain ⟨worked, shut, result, quiet⟩ := worked_of_failureWork orderly.sound
    obtain rfl := Option.some.inj (found.symm.trans (phase?_enterWith_self failing))
    unfold entered
    rw [result, quiet]
    refine Or.inr ⟨rfl, rfl, ?_⟩
    rw [fifo_enterWith worked, shut]

/-- Every step keeps what is known. -/
theorem Known.transition {M : Fifo α → Prop} {q : Queue α} (known : q.Known M)
    (stable : Fifo.Stable M) {now thread : Nat} {move : Move α} {progress : Progress α}
    (transition : q.Transition now thread move progress)
    : progress.queue.Known M where
  orderly := known.orderly.transition transition
  meets := known.orderly.stable transition stable known.meets
  decided := by
    intro other phase found
    by_cases same : other = thread
    · subst same
      exact known.decided_self transition found
    · exact known.decided_other transition same found

/-- A run keeps what is known, by induction on its steps. -/
theorem Run.known {M : Fifo α → Prop} {q last : Queue α} {late : List (Turn α)}
    (run : Run q late last) (stable : Fifo.Stable M) (known : q.Known M)
    : last.Known M := by
  induction run with
  | start => exact known
  | step before made ih => exact ih.transition stable (.of_step? made)

/-- Every turn of a run is made in a state of which everything is known. -/
theorem Run.known_before {M : Fifo α → Prop} {q last : Queue α} {late : List (Turn α)}
    (run : Run q late last) (stable : Fifo.Stable M) (known : q.Known M) {turn : Turn α}
    (member : turn ∈ late)
    : ∃ before : Queue α,
        before.Known M ∧ before.Transition turn.now turn.thread turn.move turn.progress := by
  obtain ⟨early, before, rest, _, first, made, _⟩ := run.split member
  exact ⟨before, first.known stable known, .of_step? made⟩

/-- Nothing in particular is known at first. -/
theorem Run.known_of_created {slotBytes threads : Nat} {clock : Clock} {config : Config}
    {values : List α}
    {fresh q : Queue α} {history : List (Turn α)}
    (created : (ofConfigAndItems slotBytes config (.ofList values)).result = .ok fresh)
    (run : Run (fresh.withThreads clock threads) history q)
    : q.Known fun _ => True := by
  refine run.known Fifo.stable_true ⟨.of_created created, trivial, ?_⟩
  intro thread phase found
  rw [phase?_withThreads found]
  trivial

/-- While nobody is inside, something may be learnt about the list. -/
theorem Known.learn {M N : Fifo α → Prop} {q : Queue α} (known : q.Known M)
    (free : q.holder = none) (meets : N q.fifo)
    : q.Known N where
  orderly := known.orderly
  meets := meets
  decided := fun found => .of_outside _ (known.orderly.outside free found)

-----------------------------------------------------------------------------------------
-- The answers
-----------------------------------------------------------------------------------------

/-- How a call of `operation` comes by its answer in a step from `q` to `after`. -/
inductive Reply (M : Fifo α → Prop) (q : Queue α) (operation : Operation α)
    (deadline : Option Nat) (after : Queue α)
    : Answer α → Prop
  | inspected {property answer} (asks : operation = .inspect property)
    (tells : q.config.inspect property = answer) (kept : after.fifo = q.fifo)
    : Reply M q operation deadline after answer
  | busy {answer} (refused : operation.busy? = some answer) (kept : after.fifo = q.fifo)
    : Reply M q operation deadline after answer
  | served {met now answer} (meets : M met)
    (response : met.serve (expired deadline now) operation = .answers answer after.fifo)
    (kept : after.fifo = q.fifo)
    : Reply M q operation deadline after answer
  | failed {answer} (lost : answer = .sinkFailed)
    (closed : operation = .close → after.fifo.closed = true)
    : Reply M q operation deadline after answer

/-- Whoever is with the sink reports an event of its own work, a close or a wait that has run
out of time, or has found a lock that a failing thread has left behind.
-/
theorem Known.atSink_cases {M : Fifo α → Prop} {q : Queue α} (known : q.Known M)
    {thread : Nat} {phase : Phase α} {call : Call α} (here : q.phase? thread = some phase)
    (reports : phase.atSink? = some call)
    : (∃ met now answer,
        phase = .inside call (.answered answer) true
        ∧ M met
        ∧ met.closed = false
        ∧ met.serve (expired call.deadline now) call.operation = .answers answer q.fifo
        ∧ answer.isReported = true)
      ∨ ∃ sleptOn, phase = .stumbling sleptOn call ∧ q.alarmed = true := by
  rcases Phase.cases_of_atSink? reports with ⟨outcome, rfl⟩ | ⟨sleptOn, rfl⟩
  · obtain ⟨answer, rfl, reported⟩ := known.orderly.answered_of_reporting here
    rcases known.decided here with ⟨met, now, meets, served, isOpen⟩ | ⟨_, silent, _⟩
    · exact Or.inl ⟨met, now, answer, rfl, meets, isOpen rfl, served, reported⟩
    · cases silent
  · exact Or.inr ⟨sleptOn, rfl, (known.orderly.fits here).2.1⟩

/-- Whoever is with the sink in a call to close a queue has closed it, or finds it so. -/
theorem Known.closed_of_close {M : Fifo α → Prop} {q : Queue α} (known : q.Known M)
    {thread : Nat} {phase : Phase α} {call : Call α} (here : q.phase? thread = some phase)
    (reports : phase.atSink? = some call) (closes : call.operation = .close)
    : q.fifo.closed = true := by
  rcases known.atSink_cases here reports with
    ⟨met, now, answer, _, _, _, served, _⟩ | ⟨_, _, alarmed⟩
  · rw [closes] at served
    rw [← (Fifo.Response.answers.inj served).2]
  · exact fifo_closed_of_poisoned (Bool.and_eq_true_iff.mp alarmed).1

/-- A step that ends a call gives it an answer that its operation accounts for. -/
theorem Known.reply {M : Fifo α → Prop} {q : Queue α} (known : q.Known M)
    {now thread : Nat} {move : Move α} {progress : Progress α}
    (transition : q.Transition now thread move progress) {answer : Answer α}
    (answered : progress.answer = some answer)
    : ∃ phase operation deadline,
        q.phase? thread = some phase
        ∧ phase.terms? = some (operation, deadline)
        ∧ progress.queue.phase? thread = some .idle
        ∧ q.Reply M operation deadline progress.queue answer := by
  have orderly := known.orderly
  cases transition with
  | begins | sleeps | stumbles | stirs | enters | cleansUp | failsGuarded => cases answered
  | @inspects preferred call property arrived asks =>
    obtain rfl := Option.some.inj answered
    exact ⟨_, _, _, arrived, rfl, phase?_setPhase_self arrived _,
      .inspected asks rfl rfl⟩
  | @refuses preferred call holder given arrived held busy =>
    obtain rfl := Option.some.inj answered
    exact ⟨_, _, _, arrived, rfl, phase?_setPhase_self arrived _, .busy busy rfl⟩
  | @ends call given reporting inside =>
    obtain rfl := Option.some.inj answered
    refine ⟨_, _, _, inside, rfl, phase?_setPhase_self inside _, ?_⟩
    rcases known.decided inside with ⟨met, now, meets, served, _⟩ | ⟨rfl, _, closed⟩
    · exact .served meets served rfl
    · exact .failed rfl fun _ => closed
  | fails here reports =>
    obtain rfl := Option.some.inj answered
    exact ⟨_, _, _, here, Phase.terms_of_atSink? reports, phase?_setPhase_self here _,
      .failed rfl fun _ => Bool.or_true _⟩
  | @failsAgain call phase here reports =>
    obtain rfl := Option.some.inj answered
    exact ⟨_, _, _, here, Phase.terms_of_atSink? reports, phase?_setPhase_self here _,
      .failed rfl (known.closed_of_close here reports)⟩

/-- Whoever may wait for the other side gets its answer when it gives the lock back, and does
nothing else then, unless the sink fails.
-/
theorem Transition.leaves_of_waiter {q : Queue α} {now thread : Nat} {move : Move α}
    {progress : Progress α} (transition : q.Transition now thread move progress)
    {answer : Answer α} (answered : progress.answer = some answer)
    (told : answer ≠ .sinkFailed) {side : Side}
    (waits
      : ∀ {phase terms},
          q.phase? thread = some phase
          → phase.terms? = some terms
          → terms.1.side? = some side)
    : (∃ call reporting,
        q.phase? thread = some (.inside call (.answered answer) reporting))
      ∧ move = .leave
      ∧ progress
        = { queue := { q with holder := none }.setPhase thread .idle
            answer := some answer } := by
  cases transition with
  | ends inside =>
    obtain rfl := Option.some.inj answered
    exact ⟨⟨_, _, inside⟩, rfl, rfl⟩
  | inspects arrived asks =>
    have side := waits arrived rfl
    rw [asks] at side
    cases side
  | refuses arrived _ busy =>
    rw [Operation.busy?_of_waits (waits arrived rfl)] at busy
    cases busy
  | fails | failsAgain => exact absurd (Option.some.inj answered).symm told
  | begins | sleeps | stumbles | stirs | enters | cleansUp | failsGuarded => cases answered

/-- The answers that a thread has got in the course of a run, oldest first. -/
def repliesTo (history : List (Turn α)) (thread : Nat) : List (Answer α) :=
  history.filterMap fun turn => if turn.thread = thread then turn.progress.answer else none

theorem repliesTo_append (early late : List (Turn α)) (thread : Nat)
    : repliesTo (early ++ late) thread = repliesTo early thread ++ repliesTo late thread :=
  List.filterMap_append

theorem repliesTo_step_self (history : List (Turn α)) (turn : Turn α)
    : repliesTo (history ++ [turn]) turn.thread
      = repliesTo history turn.thread ++ turn.progress.answer.toList := by
  rw [repliesTo_append]
  cases answer : turn.progress.answer <;> simp [repliesTo, answer]

theorem repliesTo_step_other (history : List (Turn α)) {turn : Turn α} {thread : Nat}
    (different : turn.thread ≠ thread)
    : repliesTo (history ++ [turn]) thread = repliesTo history thread := by
  rw [repliesTo_append]
  simp [repliesTo, different]

-----------------------------------------------------------------------------------------
-- The values that a call has moved and not yet told of
-----------------------------------------------------------------------------------------

end Queue

namespace Phase

/-- The values that a thread has taken out of the queue and not yet handed to its caller. -/
def carried : Phase α → List α
  | inside _ (.answered answer) _ => answer.handedOut
  | _ => []

/-- The values that a thread has stored in the queue and not yet told its caller of. -/
def unreported : Phase α → List α
  | inside call (.answered answer) _ => answer.accepted call.operation
  | _ => []

/-- Whether a thread has got an answer to its push that it has not yet told its caller. -/
def isAccepting : Phase α → Bool
  | inside _ (.answered answer) _ => answer.isAccepted
  | _ => false

/-- A thread has stored what its operation offers, or nothing yet. -/
theorem unreported_of_terms (phase : Phase α) {operation : Operation α} {deadline : Option Nat}
    (terms : phase.terms? = some (operation, deadline))
    : phase.unreported = if phase.isAccepting then operation.offered?.toList else [] := by
  cases phase with
  | idle => cases terms
  | inside call outcome reporting =>
    obtain ⟨rfl, _⟩ := Prod.mk.inj (Option.some.inj terms)
    cases outcome <;> rfl
  | _ => rfl

/-- The values that an answer, if there is one, tells the caller to have been stored. -/
def confirmed (phase : Phase α) (answer : Option (Answer α)) : List α :=
  match phase.terms?, answer with
  | some (operation, _), some answer => answer.accepted operation
  | _, _ => []

end Phase

/-- The values that an answer, if there is one, hands out. -/
def handedBy (answer : Option (Answer α)) : List α := answer.elim [] Answer.handedOut

theorem Queue.accepted_of_refused {answer : Answer α} (refused : answer.isAccepted = false)
    (operation : Operation α)
    : answer.accepted operation = [] :=
  if_neg (by simp [refused])

/-- An answer that tells of no value stored confirms none. -/
theorem Phase.confirmed_of_refused (phase : Phase α) {answer : Option (Answer α)}
    (refused : ∀ given, answer = some given → given.isAccepted = false)
    : phase.confirmed answer = [] := by
  unfold confirmed
  split
  · exact Queue.accepted_of_refused (refused _ rfl) _
  · rfl

namespace Queue

theorem handedOut_of_busy {operation : Operation α} {answer : Answer α}
    (busy : operation.busy? = some answer)
    : answer.handedOut = [] ∧ answer.isAccepted = false := by
  cases operation <;> cases busy <;> exact ⟨rfl, rfl⟩

theorem handedOut_of_inspect (config : Config) (property : Property)
    : (config.inspect property : Answer α).handedOut = []
      ∧ (config.inspect property : Answer α).isAccepted = false := by
  cases property <;> exact ⟨rfl, rfl⟩

/-- What a step settles is what its thread asks for, and the answer stands in the table for
the list that the thread has met, unless the sink has failed before.
-/
theorem Orderly.settled {q : Queue α} (orderly : q.Orderly) {turn : Turn α}
    (made : q.step? turn.now turn.thread turn.move = some turn.progress)
    {operation : Operation α} {answer : Answer α}
    (settles : turn.settles? = some (operation, answer))
    : ∃ phase deadline,
        q.phase? turn.thread = some phase
        ∧ phase.terms? = some (operation, deadline)
        ∧ (answer = .sinkFailed
          ∨ q.fifo.serve (expired deadline turn.now) operation
            = .answers answer turn.progress.queue.fifo) := by
  obtain ⟨now, thread, move, progress⟩ := turn
  have transition : q.Transition now thread move progress := .of_step? made
  simp only
  cases transition with
  | begins | stumbles | ends | sleeps | fails | failsGuarded | failsAgain | stirs =>
    cases settles
  | inspects arrived | refuses arrived =>
    rw [settles?_idle now arrived] at settles
    cases settles
  | @enters preferred call sleptOn door free locks =>
    obtain ⟨worked, answered⟩ :=
      worked_of_work orderly.sound now call sleptOn (orderly.came door)
    have response := answered.response
    rw [Section.response] at response
    rw [settles?_enterWith now door] at settles
    rw [fifo_enterWith worked]
    cases result : (q.work now call sleptOn).result with
    | waits =>
      rw [result] at settles
      cases settles
    | answered given =>
      rw [result] at settles response
      obtain ⟨rfl, rfl⟩ := Prod.mk.inj (Option.some.inj settles)
      exact ⟨_, call.deadline, door, by cases sleptOn <;> rfl, Or.inr response⟩
  | @cleansUp preferred call failing free =>
    rw [settles?_enterWith now failing, (worked_of_failureWork orderly.sound).2.2.1] at settles
    obtain ⟨rfl, rfl⟩ := Prod.mk.inj (Option.some.inj settles)
    exact ⟨_, call.deadline, failing, rfl, Or.inl rfl⟩

/-- Whoever is with the sink has neither taken nor stored anything in its work. -/
theorem Orderly.nothing_atSink {q : Queue α} (orderly : q.Orderly) {thread : Nat}
    {phase : Phase α} {call : Call α} (here : q.phase? thread = some phase)
    (reports : phase.atSink? = some call)
    : phase.carried = [] ∧ phase.unreported = [] := by
  rcases Phase.cases_of_atSink? reports with ⟨outcome, rfl⟩ | ⟨sleptOn, rfl⟩
  · obtain ⟨answer, rfl, reported⟩ := orderly.answered_of_reporting here
    obtain ⟨refused, nothing⟩ := Answer.isReported_values reported
    exact ⟨nothing, accepted_of_refused refused _⟩
  · exact ⟨rfl, rfl⟩

/-- What a thread takes it hands to its caller later on, and what it stores it tells its
caller later on; a failure of the sink concerns neither.
-/
theorem Orderly.passes {q : Queue α} (orderly : q.Orderly) {turn : Turn α}
    (made : q.step? turn.now turn.thread turn.move = some turn.progress) {old new : Phase α}
    (found : q.phase? turn.thread = some old)
    (after : turn.progress.queue.phase? turn.thread = some new)
    : old.carried ++ turn.taken = handedBy turn.progress.answer ++ new.carried
      ∧ old.unreported ++ turn.stored
        = old.confirmed turn.progress.answer ++ new.unreported := by
  obtain ⟨now, thread, move, progress⟩ := turn
  have transition : q.Transition now thread move progress := .of_step? made
  simp only [Turn.stored, Turn.taken] at found after ⊢
  cases transition with
  | begins here | stirs here =>
    obtain rfl := Option.some.inj (found.symm.trans here)
    obtain rfl := Option.some.inj (after.symm.trans (phase?_setPhase_self here _))
    exact ⟨rfl, rfl⟩
  | @inspects preferred call property here asks =>
    obtain rfl := Option.some.inj (found.symm.trans here)
    obtain rfl := Option.some.inj (after.symm.trans (phase?_setPhase_self here _))
    obtain ⟨nothing, refused⟩ := handedOut_of_inspect (α := α) q.config property
    rw [settles?_idle now here]
    simp [Phase.carried, Phase.unreported, Phase.confirmed, Phase.terms?, handedBy, nothing,
      accepted_of_refused refused]
  | @refuses preferred call holder answer here held busy =>
    obtain rfl := Option.some.inj (found.symm.trans here)
    obtain rfl := Option.some.inj (after.symm.trans (phase?_setPhase_self here _))
    obtain ⟨nothing, refused⟩ := handedOut_of_busy busy
    rw [settles?_idle now here]
    simp [Phase.carried, Phase.unreported, Phase.confirmed, Phase.terms?, handedBy, nothing,
      accepted_of_refused refused]
  | @enters preferred call sleptOn door free locks =>
    obtain rfl := Option.some.inj (found.symm.trans door)
    obtain rfl := Option.some.inj (after.symm.trans (phase?_enterWith_self door))
    rw [settles?_enterWith now door]
    unfold entered
    cases result : (q.work now call sleptOn).result <;> cases sleptOn <;>
      simp [Phase.carried, Phase.unreported, Phase.confirmed, Phase.terms?, handedBy,
        Call.atDoor, enterWith]
  | @cleansUp preferred call here free =>
    obtain rfl := Option.some.inj (found.symm.trans here)
    obtain rfl := Option.some.inj (after.symm.trans (phase?_enterWith_self here))
    rw [settles?_enterWith now here, (worked_of_failureWork orderly.sound).2.2.1]
    exact ⟨rfl, rfl⟩
  | ends here | sleeps here =>
    obtain rfl := Option.some.inj (found.symm.trans here)
    obtain rfl := Option.some.inj (after.symm.trans (phase?_setPhase_self here _))
    simp [Turn.settles?, Phase.carried, Phase.unreported, Phase.confirmed, Phase.terms?,
      handedBy]
  | stumbles sleptOn door =>
    obtain rfl := Option.some.inj (found.symm.trans door)
    obtain rfl := Option.some.inj (after.symm.trans (phase?_setPhase_self door _))
    cases sleptOn <;> exact ⟨rfl, rfl⟩
  | fails here reports | failsAgain here reports | failsGuarded here reports =>
    obtain rfl := Option.some.inj (found.symm.trans here)
    obtain rfl := Option.some.inj (after.symm.trans (phase?_setPhase_self here _))
    obtain ⟨carries, stores⟩ := orderly.nothing_atSink found reports
    rw [carries, stores, old.confirmed_of_refused fun given same => by cases same <;> rfl]
    exact ⟨rfl, rfl⟩

end Queue

end Conduit
