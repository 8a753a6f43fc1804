import Conduit.Proofs.Queue.Reports

/-! How the calls at a closed queue come to their end.
Nobody sleeps there and nobody goes to sleep any more, so that every call is through after
three steps of its own thread, and every element that is taken is one that the queue held
when it was closed.
-/

namespace Conduit

variable {α : Type}

/-- Whether an operation takes elements out of the queue. -/
def Operation.pops : Operation α → Bool
  | .waitPop _ | .tryPop | .nonblockingPop | .drain => true
  | _ => false

/-- Only the operations that are there for it take elements out of a list. -/
theorem Fifo.handedOut_of_serve {f after : Fifo α} {expired : Bool} {operation : Operation α}
    {answer : Answer α} (served : f.serve expired operation = .answers answer after)
    (keeps : operation.pops = false)
    : answer.handedOut = [] := by
  cases operation with
  | waitPush value timeout =>
    rcases push_eq_answers served with ⟨_, rfl, _⟩ | ⟨rfl, _⟩ | ⟨_, full⟩
    · rfl
    · rfl
    · cases expired <;> cases full
      rfl
  | tryPush value | nonblockingPush value =>
    rcases push_eq_answers served with ⟨_, rfl, _⟩ | ⟨rfl, _⟩ | ⟨_, full⟩
    · rfl
    · rfl
    · cases full
      rfl
  | close | isClosed | isEmpty | isFull | length =>
    cases served
    rfl
  | inspect property =>
    cases served
    exact (Queue.handedOut_of_inspect f.config property).1
  | waitPop | tryPop | nonblockingPop | drain => cases keeps

/-- The steps that a thread has made of the three that a call takes at a closed queue. -/
def Phase.spent : Phase α → Nat
  | .idle | .parked .. => 0
  | .arrived _ | .woken .. | .failing _ => 1
  | .inside .. | .stumbling .. => 2

theorem Phase.spent_le (phase : Phase α) : phase.spent ≤ 2 := by
  cases phase <;> simp [spent]

namespace Queue

-----------------------------------------------------------------------------------------
-- What a call can move
-----------------------------------------------------------------------------------------

/-- A step takes no elements in a call that is not there for it. -/
theorem Orderly.takes_nothing {q : Queue α} (orderly : q.Orderly) {turn : Turn α}
    (made : q.step? turn.now turn.thread turn.move = some turn.progress)
    (keeps
      : ∀ {phase operation deadline},
          q.phase? turn.thread = some phase
          → phase.terms? = some (operation, deadline)
          → operation.pops = false)
    : turn.taken = [] := by
  unfold Turn.taken
  cases settles : turn.settles? with
  | none => rfl
  | some settled =>
    obtain ⟨operation, answer⟩ := settled
    obtain ⟨_, _, found, terms, rfl | response⟩ := orderly.settled made settles
    · rfl
    · exact Fifo.handedOut_of_serve response (keeps found terms)

/-- A step stores nothing in a call that offers nothing. -/
theorem Orderly.stores_unoffered {q : Queue α} (orderly : q.Orderly) {turn : Turn α}
    (made : q.step? turn.now turn.thread turn.move = some turn.progress)
    (keeps
      : ∀ {phase operation deadline},
          q.phase? turn.thread = some phase
          → phase.terms? = some (operation, deadline)
          → operation.offered? = none)
    : turn.stored = [] := by
  unfold Turn.stored
  cases settles : turn.settles? with
  | none => rfl
  | some settled =>
    obtain ⟨operation, answer⟩ := settled
    obtain ⟨_, _, found, terms, rfl | response⟩ := orderly.settled made settles
    · rfl
    · exact accepted_of_refused
        ((Fifo.served_of_serve response).unoffered (keeps found terms)) _

-----------------------------------------------------------------------------------------
-- Closed queues
-----------------------------------------------------------------------------------------

/-- A closed queue at which nobody sleeps. -/
structure Shut (q : Queue α) : Prop where
  known : q.Known fun _ => True
  closed : q.state.closed = true
  awake : ∀ {thread side call}, q.phase? thread ≠ some (.parked side call)

/-- Every closed queue that a run can reach is such a queue. -/
theorem Run.shut {slotBytes threads : Nat} {clock : Clock} {config : Config} {values : List α}
    {fresh q : Queue α} {history : List (Turn α)}
    (created : (ofConfigAndItems slotBytes config (.ofList values)).result = .ok fresh)
    (run : Run (fresh.withThreads clock threads) history q) (closed : q.state.closed = true)
    : q.Shut where
  known := run.known_of_created created
  closed := closed
  awake := by
    intro thread side call parked
    have joined : (Phase.parked side call).hasJoined side = true := by simp [Phase.hasJoined]
    have somebody := countP_pos_of_getElem? parked joined
    have nobody := (run.tracked created side).silent closed
    exact Nat.lt_irrefl 0 (Nat.lt_of_lt_of_eq somebody nobody)

section
variable {q : Queue α}

theorem Shut.counts (shut : q.Shut) : q.fifo.closed = true := by
  simp [fifo, shut.closed]

/-- At a closed queue there is nothing left to see to. -/
theorem Shut.calm (shut : q.Shut) : q.alarmed = false := by
  simp [alarmed, shut.closed]

/-- Whoever holds the lock of a closed queue has done its work there. -/
theorem Shut.holds (shut : q.Shut) {thread : Nat} (held : q.holder = some thread)
    : ∃ call outcome reporting, q.phase? thread = some (.inside call outcome reporting) := by
  obtain ⟨phase, here, inside⟩ := shut.known.orderly.held held
  cases phase with
  | inside call outcome reporting => exact ⟨call, outcome, reporting, here⟩
  | stumbling sleptOn call =>
    exact absurd here (shut.known.orderly.upright_of_closed shut.closed thread sleptOn call)
  | _ => cases inside

/-- At a closed queue the sink can fail in nothing but a report of its closing. -/
theorem Shut.closes_of_reporting (shut : q.Shut) {thread : Nat} {phase : Phase α}
    {call : Call α} (here : q.phase? thread = some phase) (reports : phase.atSink? = some call)
    : call.operation = .close ∧ ∃ outcome, phase = .inside call outcome true := by
  rcases shut.known.atSink_cases here reports with
    ⟨met, now, answer, rfl, _, _, served, reported⟩ | ⟨_, _, alarmed⟩
  · refine ⟨?_, _, rfl⟩
    rcases Fifo.reported_cases served reported with
      ⟨closes, _⟩ | ⟨_, _, ⟨_, _, _, rfl⟩ | ⟨_, _, rfl⟩⟩
    · exact closes
    · obtain ⟨isOpen, _, same, _⟩ := Fifo.timedOut_of_serve served rfl
      cases (same ▸ isOpen).symm.trans shut.counts
    · obtain ⟨isOpen, _, same, _⟩ := Fifo.timedOut_of_serve served rfl
      cases (same ▸ isOpen).symm.trans shut.counts
  · cases shut.calm.symm.trans alarmed

/-- What the steps at a closed queue do to the thread that makes them: it is one step further
in its call, or the call has ended.
-/
theorem Shut.step (shut : q.Shut) {now thread : Nat} {move : Move α} {progress : Progress α}
    (transition : q.Transition now thread move progress) {old : Phase α}
    (found : q.phase? thread = some old)
    : ∃ new,
        progress.queue.phase? thread = some new
        ∧ (∀ side call, new ≠ .parked side call)
        ∧ (progress.answer = none ∧ new.spent = old.spent + 1
          ∨ (∃ answer, progress.answer = some answer) ∧ new = .idle) := by
  cases transition with
  | begins here =>
    obtain rfl := Option.some.inj (found.symm.trans here)
    exact ⟨_, phase?_setPhase_self here _, by simp, Or.inl ⟨rfl, rfl⟩⟩
  | @enters preferred call sleptOn here =>
    obtain rfl := Option.some.inj (found.symm.trans here)
    refine ⟨_, phase?_enterWith_self here, by simp [entered], Or.inl ⟨rfl, ?_⟩⟩
    cases sleptOn <;> rfl
  | cleansUp here =>
    obtain rfl := Option.some.inj (found.symm.trans here)
    exact ⟨_, phase?_enterWith_self here, by simp [entered], Or.inl ⟨rfl, rfl⟩⟩
  | inspects here | refuses here | ends here | fails here | failsAgain here =>
    exact ⟨_, phase?_setPhase_self here _, by simp, Or.inr ⟨⟨_, rfl⟩, rfl⟩⟩
  | sleeps here =>
    cases (shut.known.orderly.fits here).2.2.2.1.symm.trans shut.counts
  | stumbles _ _ _ _ alarmed => cases shut.calm.symm.trans alarmed
  | failsGuarded here reports _ careful =>
    rw [(shut.closes_of_reporting here reports).1] at careful
    cases careful
  | stirs here => exact absurd here shut.awake

/-- Closed queues stay so, and nobody goes to sleep at them. -/
theorem Shut.transition (shut : q.Shut) {now thread : Nat} {move : Move α}
    {progress : Progress α} (transition : q.Transition now thread move progress)
    : progress.queue.Shut where
  known := shut.known.transition Fifo.stable_true transition
  closed := shut.known.orderly.keepsClosed transition shut.closed
  awake := by
    intro other side call parked
    by_cases own : other = thread
    · subst own
      obtain ⟨old, _, found, _⟩ := transition.present
      obtain ⟨new, after, awake, _⟩ := shut.step transition found
      exact awake side call (Option.some.inj (after.symm.trans parked))
    · rcases transition.others own with kept | ⟨_, _, asleep, _⟩
      · exact shut.awake (kept.symm.trans parked)
      · exact shut.awake asleep

/-- A step at a closed queue leaves every other thread where it is. -/
theorem Shut.others (shut : q.Shut) {now thread other : Nat} {move : Move α}
    {progress : Progress α} (transition : q.Transition now thread move progress)
    (different : other ≠ thread)
    : progress.queue.phase? other = q.phase? other := by
  rcases transition.others different with kept | ⟨_, _, asleep, _⟩
  · exact kept
  · exact absurd asleep shut.awake

theorem Run.stays_shut {last : Queue α} {late : List (Turn α)} (run : Run q late last)
    (shut : q.Shut)
    : last.Shut := by
  induction run with
  | start => exact shut
  | step _ made ih => exact ih.transition (.of_step? made)

-----------------------------------------------------------------------------------------
-- The elements that are left
-----------------------------------------------------------------------------------------

/-- An element is in a closed queue, or it has been taken and is on the way to its caller,
until it is handed out.
-/
theorem Shut.balance (shut : q.Shut) {turn : Turn α}
    (made : q.step? turn.now turn.thread turn.move = some turn.progress) {old new : Phase α}
    (found : q.phase? turn.thread = some old)
    (after : turn.progress.queue.phase? turn.thread = some new)
    : q.state.ring.length + old.carried.length
      = turn.progress.queue.state.ring.length + (handedBy turn.progress.answer).length
        + new.carried.length := by
  have orderly := shut.known.orderly
  have transition : q.Transition turn.now turn.thread turn.move turn.progress := .of_step? made
  have carried := congrArg List.length (orderly.passes made found after).1
  have order := congrArg List.length (orderly.elements made)
  rw [orderly.stores_nothing shut.counts transition] at order
  simp only [List.length_append, List.length_nil, Ring.length_toList orderly.sound.valid,
    Ring.length_toList (orderly.transition transition).sound.valid] at carried order
  omega

/-- Calls of operations that take nothing leave the elements of a closed queue alone. -/
theorem Shut.keeps (shut : q.Shut) {turn : Turn α}
    (made : q.step? turn.now turn.thread turn.move = some turn.progress)
    (keeps
      : ∀ {phase operation deadline},
          q.phase? turn.thread = some phase
          → phase.terms? = some (operation, deadline)
          → operation.pops = false)
    : turn.progress.queue.state.ring.toList = q.state.ring.toList := by
  have orderly := shut.known.orderly
  have transition : q.Transition turn.now turn.thread turn.move turn.progress := .of_step? made
  have order := orderly.elements made
  rw [orderly.stores_nothing shut.counts transition, List.append_nil] at order
  rw [orderly.takes_nothing made keeps] at order
  exact order.symm

-----------------------------------------------------------------------------------------
-- What the calls end with
-----------------------------------------------------------------------------------------

/-- What a call can end with after `q` has been closed: with what the operation ends with at a
closed queue that still has its elements, unless the answer had been decided by then or the
sink fails under the call.
-/
inductive EndsAfter (q : Queue α) (thread : Nat) (operation : Operation α) (answer : Answer α)
    : Prop
  | closed (ends : operation.EndsWith q.state.ring.toList answer)
  | decided {call reporting}
    (inside : q.phase? thread = some (.inside call (.answered answer) reporting))
    (asks : call.operation = operation)
  | cleanedUp {call} (failing : q.phase? thread = some (.failing call))
    (asks : call.operation = operation) (lost : answer = .sinkFailed)
  | failed {call outcome} (inside : q.phase? thread = some (.inside call outcome true))
    (asks : call.operation = operation) (lost : answer = .sinkFailed)

/-- A call that was still to be served then ends as calls do at a closed queue. -/
theorem EndsAfter.of_woken {q : Queue α} {thread : Nat} {operation : Operation α}
    {answer : Answer α} (ends : q.EndsAfter thread operation answer) {side : Side}
    {call : Call α} (found : q.phase? thread = some (.woken side call))
    : operation.EndsWith q.state.ring.toList answer := by
  cases ends with
  | closed ends => exact ends
  | decided there | cleanedUp there | failed there => cases found.symm.trans there

/-- No call ends with a failure of the sink that begins at a closed queue. -/
theorem not_endsWith_sinkFailed (operation : Operation α) (elements : List α)
    : ¬operation.EndsWith elements .sinkFailed := by
  intro ends
  cases operation with
  | inspect property =>
    obtain ⟨config, same⟩ := ends
    cases property <;> cases same
  | _ => simp [Operation.EndsWith] at ends

/-- A call that ends with a failure of the sink had begun by then. -/
theorem EndsAfter.underway {q : Queue α} {thread : Nat} {operation : Operation α}
    (ends : q.EndsAfter thread operation .sinkFailed)
    : ∃ phase deadline,
        q.phase? thread = some phase ∧ phase.terms? = some (operation, deadline) := by
  cases ends with
  | closed ends => exact absurd ends (not_endsWith_sinkFailed _ _)
  | @decided call reporting there asks => exact ⟨_, call.deadline, there, by rw [← asks]; rfl⟩
  | @cleanedUp call there asks => exact ⟨_, call.deadline, there, by rw [← asks]; rfl⟩
  | @failed call outcome there asks => exact ⟨_, call.deadline, there, by rw [← asks]; rfl⟩

/-- What is known of a thread in a phase at a time after `q` has been closed. -/
def Since (q : Queue α) (thread : Nat) : Phase α → Prop
  | .inside call (.answered answer) reporting =>
    q.phase? thread = some (.inside call (.answered answer) reporting)
    ∨ reporting = false ∧ q.EndsAfter thread call.operation answer
  | .failing call => q.phase? thread = some (.failing call)
  | _ => True

theorem since_self (q : Queue α) {thread : Nat} {phase : Phase α}
    (found : q.phase? thread = some phase)
    : q.Since thread phase := by
  cases phase with
  | inside call outcome reporting =>
    cases outcome with
    | answered answer => exact Or.inl found
    | waits => trivial
  | failing call => exact found
  | _ => trivial

/-- A step of a thread that was at a closed queue before keeps what is known of it. -/
theorem Shut.since {first : Queue α} (shut : q.Shut)
    (left : q.state.ring.toList <:+ first.state.ring.toList) {now thread : Nat}
    {move : Move α} {progress : Progress α}
    (transition : q.Transition now thread move progress)
    (since : ∀ {phase}, q.phase? thread = some phase → first.Since thread phase)
    {phase : Phase α} (after : progress.queue.phase? thread = some phase)
    : first.Since thread phase := by
  have orderly := shut.known.orderly
  cases transition with
  | begins here | inspects here | refuses here | ends here | sleeps here | fails here
  | failsAgain here | stirs here =>
    obtain rfl := Option.some.inj (after.symm.trans (phase?_setPhase_self here _))
    trivial
  | stumbles _ _ _ _ alarmed => cases shut.calm.symm.trans alarmed
  | failsGuarded here reports _ careful =>
    rw [(shut.closes_of_reporting here reports).1] at careful
    cases careful
  | @enters preferred call sleptOn door =>
    obtain rfl := Option.some.inj (after.symm.trans (phase?_enterWith_self door))
    have answered := (worked_of_work orderly.sound now call sleptOn (orderly.came door)).2
    have response := answered.response
    rw [Section.response] at response
    have silent : canFail (q.work now call sleptOn).events = false := by
      rw [Bool.eq_false_iff]
      intro loud
      cases (open_of_canFail orderly.sound loud).symm.trans shut.counts
    unfold entered
    rw [silent]
    cases result : (q.work now call sleptOn).result with
    | answered answer =>
      rw [result] at response
      have ending : q.fifo.Ending first.state.ring.toList := ⟨shut.counts, left⟩
      exact Or.inr ⟨rfl, .closed (ending.serve response).2⟩
    | waits => trivial
  | @cleansUp preferred call failing =>
    obtain rfl := Option.some.inj (after.symm.trans (phase?_enterWith_self failing))
    obtain ⟨_, _, result, quiet⟩ := worked_of_failureWork orderly.sound
    have there := since failing
    unfold entered
    rw [result, quiet]
    exact Or.inr ⟨rfl, .cleanedUp there rfl rfl⟩

/-- What is known of all threads after a queue has been closed, by induction on the run. -/
theorem Run.since {last : Queue α} {late : List (Turn α)} (run : Run q late last)
    (shut : q.Shut) {thread : Nat} {phase : Phase α} (found : last.phase? thread = some phase)
    : q.Since thread phase := by
  induction run generalizing phase with
  | start => exact q.since_self found
  | @step history met turn before made ih =>
    have still := before.stays_shut shut
    have transition := Transition.of_step? made
    by_cases own : thread = turn.thread
    · subst own
      have order := (before.elements shut.known.orderly).2
      rw [before.stores_nothing shut.known.orderly shut.counts, List.map_nil,
        List.append_nil] at order
      exact still.since ⟨_, order.symm⟩ transition ih found
    · exact ih ((still.others transition own).symm.trans found)

/-- What a call ends with in a step after the queue has been closed. -/
theorem Run.endsAfter {last : Queue α} {late : List (Turn α)} (run : Run q late last)
    (shut : q.Shut) {now thread : Nat} {move : Move α} {progress : Progress α}
    (transition : last.Transition now thread move progress) {answer : Answer α}
    (answered : progress.answer = some answer)
    : ∃ phase operation deadline,
        last.phase? thread = some phase
        ∧ phase.terms? = some (operation, deadline)
        ∧ q.EndsAfter thread operation answer := by
  cases transition with
  | begins | sleeps | stirs | enters | cleansUp | stumbles | failsGuarded => cases answered
  | @inspects preferred call property arrived asks =>
    obtain rfl := Option.some.inj answered
    refine ⟨_, _, _, arrived, rfl, .closed ?_⟩
    rw [asks]
    exact ⟨last.config, rfl⟩
  | @refuses preferred call holder given arrived held busy =>
    obtain rfl := Option.some.inj answered
    refine ⟨_, _, _, arrived, rfl, .closed ?_⟩
    cases operation : call.operation <;> rw [operation] at busy <;> cases busy
    · exact Or.inr rfl
    · exact Or.inr (Or.inl rfl)
  | ends inside =>
    obtain rfl := Option.some.inj answered
    refine ⟨_, _, _, inside, rfl, ?_⟩
    rcases run.since shut inside with there | ⟨_, ends⟩
    · exact .decided there rfl
    · exact ends
  | fails here reports | failsAgain here reports =>
    obtain rfl := Option.some.inj answered
    have still := run.stays_shut shut
    obtain ⟨outcome, rfl⟩ := (still.closes_of_reporting here reports).2
    refine ⟨_, _, _, here, rfl, ?_⟩
    obtain ⟨given, rfl, _⟩ := still.known.orderly.answered_of_reporting here
    rcases run.since shut here with there | ⟨silent, _⟩
    · exact .failed there rfl rfl
    · cases silent

end

end Queue

end Conduit
