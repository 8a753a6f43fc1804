import Conduit.Proofs.Queue.Closing

/-! Where the log sink fails, and what becomes of the call.
The sink fails in the event of a close, of a wait that has run out of time, or in the report of
a lock that a failing thread has left behind. A thread that takes such a lock with the failure
ahead of it has stumbled over it; while nobody does, a queue that counts as closed reports
nothing and the sink cannot fail there any more.
-/

namespace Conduit

variable {α : Type}

/-- A thread has stumbled over a poisoned lock. -/
def Stumbled (history : List (Turn α)) (thread : Nat) : Prop :=
  ∃ turn ∈ history, turn.thread = thread ∧ turn.move.isStumble = true

/-- The log sink does not fail in reports of a poisoned lock. -/
def Steady (history : List (Turn α)) : Prop :=
  ∀ turn ∈ history, turn.move.isStumble = false

instance (history : List (Turn α)) : Decidable (Steady history) :=
  inferInstanceAs (Decidable (∀ turn ∈ history, turn.move.isStumble = false))

theorem Steady.left {early late : List (Turn α)} (steady : Steady (early ++ late))
    : Steady early :=
  fun turn member => steady turn (List.mem_append_left _ member)

theorem Steady.right {early late : List (Turn α)} (steady : Steady (early ++ late))
    : Steady late :=
  fun turn member => steady turn (List.mem_append_right _ member)

theorem Steady.never {history : List (Turn α)} (steady : Steady history) (thread : Nat)
    : ¬Stumbled history thread := by
  rintro ⟨turn, member, _, stumbles⟩
  cases (steady turn member).symm.trans stumbles

theorem Stumbled.step {history : List (Turn α)} {thread : Nat}
    (stumbled : Stumbled history thread) (turn : Turn α)
    : Stumbled (history ++ [turn]) thread := by
  obtain ⟨earlier, member, own, stumbles⟩ := stumbled
  exact ⟨earlier, List.mem_append_left _ member, own, stumbles⟩

/-- Whether the sink fails in this step and leaves a poisoned lock behind. -/
def Turn.poisons (turn : Turn α) : Bool := turn.move.isFailure && turn.progress.queue.poisoned

theorem Turn.poisons_of_healthy {turn : Turn α} (healthy : turn.move.isFailure = false)
    : turn.poisons = false := by
  rw [poisons, healthy, Bool.false_and]

namespace Queue

-----------------------------------------------------------------------------------------
-- Stumbling
-----------------------------------------------------------------------------------------

/-- A thread is at the report of a poisoned lock since a step of its own. -/
theorem Transition.stumbling_cases {q : Queue α} {now thread other : Nat} {move : Move α}
    {progress : Progress α} (transition : q.Transition now thread move progress)
    {sleptOn : Option Side} {call : Call α}
    (found : progress.queue.phase? other = some (.stumbling sleptOn call))
    : q.phase? other = some (.stumbling sleptOn call)
      ∨ other = thread ∧ move.isStumble = true := by
  by_cases same : other = thread
  · subst same
    cases transition with
    | stumbles => exact Or.inr ⟨rfl, rfl⟩
    | begins here | inspects here | refuses here | ends here | sleeps here | stirs here
    | fails here | failsGuarded here | failsAgain here =>
      cases found.symm.trans (phase?_setPhase_self here _)
    | enters sleptOn door => cases found.symm.trans (phase?_enterWith_self door)
    | cleansUp failing => cases found.symm.trans (phase?_enterWith_self failing)
  · rcases transition.others same with kept | ⟨side, call, _, woken⟩
    · exact Or.inl (kept.symm.trans found)
    · cases woken.symm.trans found

/-- A thread that stumbles comes to the report of a poisoned lock. -/
theorem Transition.stumbling_of_stumble {q : Queue α} {now thread : Nat} {move : Move α}
    {progress : Progress α} (transition : q.Transition now thread move progress)
    (stumbles : move.isStumble = true)
    : ∃ sleptOn call, progress.queue.phase? thread = some (.stumbling sleptOn call) := by
  cases transition with
  | stumbles sleptOn door => exact ⟨_, _, phase?_setPhase_self door _⟩
  | _ => cases stumbles

/-- There it can only fail. -/
theorem Transition.of_stumbling {q : Queue α} {now thread : Nat} {move : Move α}
    {progress : Progress α} (transition : q.Transition now thread move progress)
    {sleptOn : Option Side} {call : Call α}
    (found : q.phase? thread = some (.stumbling sleptOn call))
    : progress.answer = some .sinkFailed
      ∨ ∃ call, progress.queue.phase? thread = some (.failing call) := by
  cases transition with
  | fails | failsAgain => exact Or.inl rfl
  | failsGuarded here => exact Or.inr ⟨_, phase?_setPhase_self here _⟩
  | enters slept door | stumbles slept door =>
    cases slept <;> cases found.symm.trans door
  | begins here | inspects here | refuses here | cleansUp here | ends here | sleeps here
  | stirs here =>
    cases found.symm.trans here

/-- A thread stumbles over the lock of a queue that is still open. -/
theorem Transition.alarmed_of_stumble {q : Queue α} {now thread : Nat} {move : Move α}
    {progress : Progress α} (transition : q.Transition now thread move progress)
    (stumbles : move.isStumble = true)
    : q.poisoned = true ∧ q.state.closed = false := by
  cases transition with
  | stumbles _ _ _ _ alarmed => simpa [Queue.alarmed] using alarmed
  | _ => cases stumbles

/-- Whoever is at the report of a poisoned lock has been there at first or has stumbled since,
by induction on the run.
-/
theorem Run.stumbled {q last : Queue α} {late : List (Turn α)} (run : Run q late last)
    {thread : Nat} {sleptOn : Option Side} {call : Call α}
    (found : last.phase? thread = some (.stumbling sleptOn call))
    : q.phase? thread = some (.stumbling sleptOn call) ∨ Stumbled late thread := by
  induction run with
  | start => exact Or.inl found
  | @step history met turn before made ih =>
    rcases (Transition.of_step? made).stumbling_cases found with earlier | ⟨own, stumbles⟩
    · exact (ih earlier).imp_right fun stumbled => stumbled.step turn
    · exact Or.inr
        ⟨turn, List.mem_append_right _ (List.mem_singleton_self turn), own.symm, stumbles⟩

/-- A thread is about to close the queue for a failure of its own since that failure. -/
theorem Transition.failing_cases {q : Queue α} {now thread other : Nat} {move : Move α}
    {progress : Progress α} (transition : q.Transition now thread move progress)
    {call : Call α} (found : progress.queue.phase? other = some (.failing call))
    : q.phase? other = some (.failing call)
      ∨ ∃ phase,
        q.phase? thread = some phase
        ∧ phase.atSink? = some call
        ∧ call.operation.closesOnFailure = true := by
  by_cases same : other = thread
  · subst same
    cases transition with
    | failsGuarded here reports _ careful =>
      cases found.symm.trans (phase?_setPhase_self here _)
      exact Or.inr ⟨_, here, reports, careful⟩
    | begins here | inspects here | refuses here | ends here | sleeps here | stirs here
    | fails here | failsAgain here =>
      cases found.symm.trans (phase?_setPhase_self here _)
    | stumbles sleptOn door => cases found.symm.trans (phase?_setPhase_self door _)
    | enters sleptOn door => cases found.symm.trans (phase?_enterWith_self door)
    | cleansUp failing => cases found.symm.trans (phase?_enterWith_self failing)
  · rcases transition.others same with kept | ⟨side, call, _, woken⟩
    · exact Or.inl (kept.symm.trans found)
    · cases woken.symm.trans found

/-- Where nobody stumbles, nobody is about to fail in the report of a poisoned lock. -/
theorem Run.upright {q last : Queue α} {late : List (Turn α)} (run : Run q late last)
    (steady : Steady late) (upright : q.Upright)
    : last.Upright := by
  intro thread sleptOn call found
  rcases run.stumbled found with first | stumbled
  · exact upright thread sleptOn call first
  · exact steady.never thread stumbled

/-- What happens after the closing, if nobody stumbles: no failure of the sink, and nothing but
elements leaving from the front.
-/
theorem Run.quiet {q last : Queue α} {late : List (Turn α)} {elements : List α}
    (run : Run q late last) (known : q.Known (Fifo.Ending elements)) (steady : Steady late)
    (upright : q.Upright)
    : (∀ turn ∈ late, turn.move.isFailure = false)
      ∧ storedBy late = []
      ∧ q.state.ring.toList = (takenBy late).map Prod.snd ++ last.state.ring.toList := by
  have nothing := run.stores_nothing known.orderly known.meets.closed
  have order := (run.elements known.orderly).2
  rw [nothing, List.map_nil, List.append_nil] at order
  refine ⟨fun turn member => ?_, nothing, order⟩
  obtain ⟨early, before, later, rfl, first, made, _⟩ := run.split member
  exact (first.known (Fifo.stable_ending elements) known).healthy (.of_step? made)
    (first.upright steady.left upright)

-----------------------------------------------------------------------------------------
-- Calls that the sink has failed under
-----------------------------------------------------------------------------------------

end Queue

/-- Whether the sink has failed under the call that a thread is in. -/
def Phase.isLost : Phase α → Bool
  | .failing _ | .inside _ (.answered .sinkFailed) _ => true
  | _ => false

namespace Queue

/-- A call is lost only by a failure of the sink that poisons the lock, in a step of its own
thread.
-/
theorem Orderly.lost_cases {q : Queue α} (orderly : q.Orderly) {now thread other : Nat}
    {move : Move α} {progress : Progress α}
    (transition : q.Transition now thread move progress) {phase : Phase α}
    (found : progress.queue.phase? other = some phase) (lost : phase.isLost = true)
    : (∃ old, q.phase? other = some old ∧ old.isLost = true)
      ∨ other = thread ∧ move.isFailure = true ∧ progress.queue.poisoned = true := by
  by_cases same : other = thread
  · subst same
    cases transition with
    | begins here | inspects here | refuses here | ends here | sleeps here | stirs here
    | fails here | failsAgain here =>
      obtain rfl := Option.some.inj (found.symm.trans (phase?_setPhase_self here _))
      cases lost
    | stumbles sleptOn door =>
      obtain rfl := Option.some.inj (found.symm.trans (phase?_setPhase_self door _))
      cases lost
    | failsGuarded => exact Or.inr ⟨rfl, rfl, rfl⟩
    | cleansUp failing => exact Or.inl ⟨_, failing, rfl⟩
    | @enters preferred call sleptOn door free locks =>
      obtain rfl := Option.some.inj (found.symm.trans (phase?_enterWith_self door))
      have answered := (worked_of_work orderly.sound now call sleptOn (orderly.came door)).2
      have response := answered.response
      rw [Section.response] at response
      unfold entered at lost
      cases result : (q.work now call sleptOn).result with
      | waits side time =>
        rw [result] at lost
        cases lost
      | answered answer =>
        rw [result] at lost response
        cases answer with
        | sinkFailed => exact False.elim (Fifo.tells_of_serve response)
        | _ => cases lost
  · rcases transition.others same with kept | ⟨side, call, _, woken⟩
    · exact Or.inl ⟨phase, kept.symm.trans found, lost⟩
    · obtain rfl := Option.some.inj (woken.symm.trans found)
      cases lost

/-- A call ends with a failure of the sink only if it has been lost, or is lost just then. -/
theorem Transition.lost_of_sinkFailed {q : Queue α} {now thread : Nat} {move : Move α}
    {progress : Progress α} (transition : q.Transition now thread move progress)
    (answered : progress.answer = some .sinkFailed)
    : move.isFailure = true ∨ ∃ old, q.phase? thread = some old ∧ old.isLost = true := by
  cases transition with
  | begins | sleeps | stumbles | stirs | enters | cleansUp | failsGuarded => cases answered
  | @inspects preferred call property => cases property <;> cases answered
  | @refuses preferred call holder answer arrived held busy =>
    obtain rfl := Option.some.inj answered
    cases operation : call.operation <;> rw [operation] at busy <;> cases busy
  | ends inside =>
    obtain rfl := Option.some.inj answered
    exact Or.inr ⟨_, inside, rfl⟩
  | fails | failsAgain => exact Or.inl rfl

/-- While no failure poisons the lock, no call is lost that has not been lost before. -/
theorem Run.lost_before {q last : Queue α} {late : List (Turn α)} (run : Run q late last)
    (orderly : q.Orderly) (sane : ∀ turn ∈ late, turn.poisons = false) {other : Nat}
    {phase : Phase α} (found : last.phase? other = some phase) (lost : phase.isLost = true)
    : ∃ old, q.phase? other = some old ∧ old.isLost = true := by
  induction run generalizing phase with
  | start => exact ⟨phase, found, lost⟩
  | @step history last turn before made ih =>
    have known := (before.elements orderly).1
    rcases known.lost_cases (.of_step? made) found lost with ⟨old, here, gone⟩ | ⟨_, fails⟩
    · exact ih (fun turn member => sane turn (List.mem_append_left _ member)) here gone
    · have kept := sane turn (List.mem_append_right _ (List.mem_singleton_self turn))
      cases kept.symm.trans (Bool.and_eq_true_iff.mpr fails)

section
variable {slotBytes threads : Nat} {clock : Clock} {config : Config} {values : List α}
  {fresh q : Queue α} {history : List (Turn α)}

/-- A call that the sink has failed under has had a step in which it did. -/
theorem Run.lost_cause
    (created : (ofConfigAndItems slotBytes config (.ofList values)).result = .ok fresh)
    (run : Run (fresh.withThreads clock threads) history q) {thread : Nat} {phase : Phase α}
    (found : q.phase? thread = some phase) (lost : phase.isLost = true)
    : ∃ failure ∈ history, failure.thread = thread ∧ failure.move.isFailure = true := by
  induction run generalizing phase with
  | start =>
    obtain rfl := phase?_withThreads found
    cases lost
  | @step history last newest before made ih =>
    have orderly := before.orderly created
    rcases orderly.lost_cases (.of_step? made) found lost with
      ⟨old, here, gone⟩ | ⟨same, fails, _⟩
    · obtain ⟨failure, member, own, fails⟩ := ih here gone
      exact ⟨failure, List.mem_append_left _ member, own, fails⟩
    · exact ⟨newest, List.mem_append_right _ (List.mem_singleton_self newest), same.symm, fails⟩

/-- Where the sink fails under a call, the call closes the queue or has a limit on its wait, or
its thread has stumbled over a poisoned lock.
-/
theorem Run.reason_of_failure
    (created : (ofConfigAndItems slotBytes config (.ofList values)).result = .ok fresh)
    (run : Run (fresh.withThreads clock threads) history q) {thread : Nat} {phase : Phase α}
    {call : Call α} (here : q.phase? thread = some phase) (reports : phase.atSink? = some call)
    : call.operation = .close ∨ call.deadline.isSome = true ∨ Stumbled history thread := by
  rcases (run.known_of_created created).atSink_cases here reports with
    ⟨met, now, answer, _, _, _, served, reported⟩ | ⟨sleptOn, rfl, _⟩
  · exact (Fifo.reported_cases served reported).imp And.left fun timed => Or.inl timed.1
  · rcases run.stumbled here with first | stumbled
    · cases phase?_withThreads first
    · exact Or.inr (Or.inr stumbled)

/-- The same of a call that has been lost before, by induction on the run since. -/
theorem Run.reason_of_lost
    (created : (ofConfigAndItems slotBytes config (.ofList values)).result = .ok fresh)
    (run : Run (fresh.withThreads clock threads) history q) {thread : Nat} {phase : Phase α}
    (found : q.phase? thread = some phase) (lost : phase.isLost = true)
    {operation : Operation α} {deadline : Option Nat}
    (asks : phase.terms? = some (operation, deadline))
    : operation = .close ∨ deadline.isSome = true ∨ Stumbled history thread := by
  induction run generalizing phase with
  | start =>
    obtain rfl := phase?_withThreads found
    cases lost
  | @step history met turn before made ih =>
    have transition := Transition.of_step? made
    have more := Or.imp_right (a := operation = .close) <| Or.imp_right
      (a := deadline.isSome = true) fun stumbled : Stumbled history thread => stumbled.step turn
    rcases transition.terms_cases found asks with ⟨old, here, same⟩ | ⟨rfl, ⟨failing, calls⟩, _⟩
    · refine more ?_
      rcases (before.orderly created).lost_cases transition found lost with
        ⟨_, there, gone⟩ | ⟨rfl, fails, _⟩
      · obtain rfl := Option.some.inj (here.symm.trans there)
        exact ih here gone same
      · obtain ⟨_, call, there, reports⟩ := transition.of_failure fails
        obtain rfl := Option.some.inj (here.symm.trans there)
        obtain ⟨rfl, rfl⟩ :=
          Prod.mk.inj (Option.some.inj ((Phase.terms_of_atSink? reports).symm.trans same))
        exact before.reason_of_failure created here reports
    · -- A call that has just begun is not lost.
      rw [calls] at transition
      generalize turn.progress = progress at transition found
      cases transition with
      | begins idle =>
        obtain rfl := Option.some.inj (found.symm.trans (phase?_setPhase_self idle _))
        cases lost

/-- A call ends with a failure of the sink only if it closes the queue or has a limit on its
wait, or if its thread has stumbled over a poisoned lock.
-/
theorem Run.reason_of_sinkFailed
    (created : (ofConfigAndItems slotBytes config (.ofList values)).result = .ok fresh)
    (run : Run (fresh.withThreads clock threads) history q) {now thread : Nat} {move : Move α}
    {progress : Progress α} (transition : q.Transition now thread move progress)
    (answered : progress.answer = some .sinkFailed) {phase : Phase α}
    (found : q.phase? thread = some phase) {operation : Operation α} {deadline : Option Nat}
    (asks : phase.terms? = some (operation, deadline))
    : operation = .close ∨ deadline.isSome = true ∨ Stumbled history thread := by
  rcases transition.lost_of_sinkFailed answered with fails | ⟨old, here, lost⟩
  · obtain ⟨_, call, here, reports⟩ := transition.of_failure fails
    obtain rfl := Option.some.inj (found.symm.trans here)
    obtain ⟨rfl, rfl⟩ :=
      Prod.mk.inj (Option.some.inj ((Phase.terms_of_atSink? reports).symm.trans asks))
    exact run.reason_of_failure created here reports
  · obtain rfl := Option.some.inj (found.symm.trans here)
    exact run.reason_of_lost created here lost asks

-----------------------------------------------------------------------------------------
-- Waits without a limit
-----------------------------------------------------------------------------------------

/-- Where every wait may last for ever, the sink fails only in the report of a close. Nobody
has to close the queue for a failure then, and so nobody stumbles; by induction on the run.
-/
theorem Run.steady_of_unlimited
    (created : (ofConfigAndItems slotBytes config (.ofList values)).result = .ok fresh)
    (run : Run (fresh.withThreads clock threads) history q)
    (unlimited
      : ∀ turn ∈ history,
          ∀ operation failing,
            turn.move = .call operation failing → operation.timeout = .infinite)
    : Steady history ∧ ∀ thread call, q.phase? thread ≠ some (.failing call) := by
  induction run with
  | start =>
    refine ⟨fun turn member => ?_, fun thread call failing => ?_⟩
    · cases member
    · cases phase?_withThreads failing
  | @step history met turn before made ih =>
    have endless := fun earlier member =>
      unlimited earlier (List.mem_append_left [turn] member)
    obtain ⟨steady, unfailing⟩ := ih endless
    have transition := Transition.of_step? made
    refine ⟨fun newest member => ?_, fun thread call failing => ?_⟩
    · rcases List.mem_append.mp member with earlier | same
      · exact steady newest earlier
      obtain rfl := List.mem_singleton.mp same
      rw [Bool.eq_false_iff]
      intro stumbles
      obtain ⟨poisoned, isOpen⟩ := transition.alarmed_of_stumble stumbles
      rcases (before.orderly created).excused poisoned with closed | ⟨thread, call, failing⟩
      · cases isOpen.symm.trans closed
      · exact unfailing thread call failing
    · rcases transition.failing_cases failing with earlier | ⟨phase, here, reports, careful⟩
      · exact unfailing thread call earlier
      rcases before.reason_of_failure created here reports with closes | timed | stumbled
      · rw [closes] at careful
        cases careful
      · obtain ⟨began, member, _, ⟨_, calls⟩, due⟩ :=
          before.terms_begun here (Phase.terms_of_atSink? reports)
        rw [endless began member _ _ calls] at due
        cases (congrArg Option.isSome due).symm.trans timed
      · exact steady.never _ stumbled

end

end Queue

end Conduit
