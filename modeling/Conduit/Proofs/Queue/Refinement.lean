import Conduit.Proofs.Queue.Runs

/-! A queue with its lock, slots and sleepers, seen as a plain list with a closed flag.
Every stretch of work under the lock is one line of the operation table, or it changes
nothing and ends with its caller going to sleep, and whatever happens outside the lock
changes nothing.
-/

namespace Conduit

variable {α : Type}

theorem Operation.not_inspection {operation : Operation α} {side : Side}
    (waits : operation.side? = some side)
    : operation.isInspection = false := by
  cases operation with
  | inspect => cases waits
  | _ => rfl

/-- An operation that may wait for space or data also waits for the lock. -/
theorem Operation.busy?_of_waits {operation : Operation α} {side : Side}
    (waits : operation.side? = some side)
    : operation.busy? = none := by
  cases operation with
  | waitPush | waitPop => rfl
  | _ => cases waits

theorem Operation.closesOnFailure_of_waits {operation : Operation α} {side : Side}
    (waits : operation.side? = some side)
    : operation.closesOnFailure = true := by
  cases operation with
  | waitPush | waitPop => rfl
  | _ => cases waits

/-- What a thread with a call in progress has asked for, and until when it may wait. -/
def Phase.terms? : Phase α → Option (Operation α × Option Nat)
  | .idle => none
  | .arrived call | .inside call _ _ | .parked _ call | .woken _ call | .stumbling _ call
  | .failing call =>
    some (call.operation, call.deadline)

theorem Phase.terms_of_atSink? {phase : Phase α} {call : Call α}
    (reports : phase.atSink? = some call)
    : phase.terms? = some (call.operation, call.deadline) := by
  rcases Phase.cases_of_atSink? reports with ⟨outcome, rfl⟩ | ⟨sleptOn, rfl⟩ <;> rfl

/-- Whether a failure of the sink would poison the lock that the thread holds: the thread was
not failing before.
-/
def Phase.poisons (phase : Phase α) : Bool := phase.atSink?.any fun call => !call.alreadyFailing

/-- A thread is in a call unless it is idle. -/
theorem Phase.idle_of_terms {phase : Phase α} (silent : phase.terms? = none) : phase = .idle := by
  cases phase with
  | idle => rfl
  | _ => cases silent

namespace Queue

-----------------------------------------------------------------------------------------
-- While a thread is inside, the others change nothing
-----------------------------------------------------------------------------------------

/-- The steps that other threads make while one is inside leave the list and that thread
alone.
-/
theorem Orderly.undisturbed {q : Queue α} (orderly : q.Orderly) {now thread other : Nat}
    {move : Move α} {progress : Progress α} {phase : Phase α}
    (inside : q.phase? thread = some phase) (holds : phase.isInside = true)
    (different : other ≠ thread) (transition : q.Transition now other move progress)
    : progress.queue.phase? thread = some phase ∧ progress.queue.fifo = q.fifo := by
  have held := (orderly.fits inside).holder holds
  have outside
      : ∀ {phase : Phase α}, q.phase? other = some phase → phase.isInside = false :=
    fun found => orderly.alone held different found
  have kept : progress.queue.phase? thread = some phase := by
    rcases transition.others (Ne.symm different) with same | ⟨side, call, parked, _⟩
    · exact same.trans inside
    · obtain rfl := Option.some.inj (inside.symm.trans parked)
      cases holds
  refine ⟨kept, ?_⟩
  cases transition with
  | begins | inspects | refuses | stirs => rfl
  | enters _ _ free | cleansUp _ free | stumbles _ _ free => cases held.symm.trans free
  | ends found | sleeps found => cases outside found
  | fails found reports | failsGuarded found reports | failsAgain found reports =>
    cases (outside found).symm.trans (Phase.isInside_of_atSink? reports)

/-- What a thread has done under the lock stays as it is until that thread goes on, by
induction on what the others do meanwhile.
-/
theorem Run.undisturbed {q late : Queue α} {others : List (Turn α)} (run : Run q others late)
    (orderly : q.Orderly) {thread : Nat} {phase : Phase α}
    (inside : q.phase? thread = some phase) (holds : phase.isInside = true)
    (different : ∀ turn ∈ others, turn.thread ≠ thread)
    : late.Orderly ∧ late.phase? thread = some phase ∧ late.fifo = q.fifo := by
  induction run with
  | start => exact ⟨orderly, inside, rfl⟩
  | @step history last turn before made ih =>
    obtain ⟨known, here, same⟩ :=
      ih fun turn member => different turn (List.mem_append_left _ member)
    have other := different turn (List.mem_append_right _ (List.mem_singleton_self turn))
    have transition := Transition.of_step? made
    obtain ⟨here', same'⟩ := known.undisturbed here holds other transition
    exact ⟨known.transition transition, here', same'.trans same⟩

-----------------------------------------------------------------------------------------
-- The deadline of a call
-----------------------------------------------------------------------------------------

/-- A step keeps the terms of every call in progress, and a call that it begins gets its
deadline from the tick.
-/
theorem Transition.terms_cases {q : Queue α} {now thread other : Nat} {move : Move α}
    {progress : Progress α} {phase : Phase α} {terms : Operation α × Option Nat}
    (transition : q.Transition now thread move progress)
    (found : progress.queue.phase? other = some phase) (asks : phase.terms? = some terms)
    : (∃ before, q.phase? other = some before ∧ before.terms? = some terms)
      ∨ other = thread
        ∧ (∃ failing, move = .call terms.1 failing)
        ∧ terms.2 = terms.1.timeout.deadline q.clock now := by
  by_cases same : other = thread
  · subst same
    -- A thread that goes on with its call has kept its terms.
    have goesOn
        : ∀ {old new : Phase α},
            q.phase? other = some old
            → progress.queue.phase? other = some new
            → (new.terms? = some terms → old.terms? = some terms)
            → ∃ before, q.phase? other = some before ∧ before.terms? = some terms := by
      intro old new before after keeps
      obtain rfl := Option.some.inj (found.symm.trans after)
      exact ⟨old, before, keeps asks⟩
    cases transition with
    | begins idle =>
      obtain rfl := Option.some.inj (found.symm.trans (phase?_setPhase_self idle _))
      obtain rfl := Option.some.inj asks
      exact Or.inr ⟨rfl, ⟨_, rfl⟩, rfl⟩
    | inspects here | refuses here | ends here | fails here | failsAgain here =>
      exact Or.inl (goesOn here (phase?_setPhase_self here _) fun none => by cases none)
    | sleeps here | stirs here =>
      exact Or.inl (goesOn here (phase?_setPhase_self here _) id)
    | stumbles sleptOn door =>
      refine Or.inl (goesOn door (phase?_setPhase_self door _) fun kept => ?_)
      cases sleptOn <;> exact kept
    | failsGuarded here reports =>
      refine Or.inl (goesOn here (phase?_setPhase_self here _) fun kept => ?_)
      exact (Phase.terms_of_atSink? reports).trans kept
    | enters sleptOn door =>
      refine Or.inl (goesOn door (phase?_enterWith_self door) fun kept => ?_)
      cases sleptOn <;> exact kept
    | cleansUp failing => exact Or.inl (goesOn failing (phase?_enterWith_self failing) id)
  · rcases transition.others same with kept | ⟨side, call, parked, woken⟩
    · exact Or.inl ⟨phase, kept.symm.trans found, asks⟩
    · obtain rfl := Option.some.inj (woken.symm.trans found)
      exact Or.inl ⟨_, parked, asks⟩

/-- In every reachable state a call in progress has been begun by its thread, and its deadline
was fixed then.
-/
theorem Run.terms_begun {clock : Clock} {threads : Nat} {fresh q : Queue α}
    {history : List (Turn α)}
    (run : Run (fresh.withThreads clock threads) history q) {thread : Nat} {phase : Phase α}
    {terms : Operation α × Option Nat} (found : q.phase? thread = some phase)
    (asks : phase.terms? = some terms)
    : ∃ turn ∈ history,
        turn.thread = thread
        ∧ (∃ failing, turn.move = .call terms.1 failing)
        ∧ terms.2 = terms.1.timeout.deadline clock turn.now := by
  induction run generalizing phase with
  | start =>
    rw [phase?_withThreads found] at asks
    cases asks
  | @step history last turn before made ih =>
    rcases (Transition.of_step? made).terms_cases found asks with
      ⟨old, here, asked⟩ | ⟨rfl, begins⟩
    · obtain ⟨turn, member, known⟩ := ih here asked
      exact ⟨turn, List.mem_append_left _ member, known⟩
    · rw [before.clock_eq] at begins
      exact ⟨turn, List.mem_append_right _ (List.mem_singleton_self turn), rfl, begins⟩

-----------------------------------------------------------------------------------------
-- The operation table
-----------------------------------------------------------------------------------------

/-- How a stretch of work ends that met the list `f`, read off the operation table: the call
gets the answer of its line and the list is what that line leaves, or the list has not changed
and the caller sleeps, which it does only at an open full or an open empty queue.
-/
def Concludes (f : Fifo α) (expired : Bool) (call : Call α) (thread : Nat)
    (ended : Progress α) : Prop :=
  match f.serve expired call.operation with
  | .answers answer after =>
    ended.answer = some answer
    ∧ ended.queue.fifo = after
    ∧ ended.queue.phase? thread = some .idle
  | .waits side =>
    ended.answer = none
    ∧ ended.queue.fifo = f
    ∧ ended.queue.phase? thread = some (.parked side call)
    ∧ call.operation.side? = some side
    ∧ f.closed = false
    ∧ (side = .producer → f.elements.length = f.config.capacity)
    ∧ (side = .consumer → f.elements = [])

/-- How a queue reached by `history` behaves as a plain list with a closed flag. Whoever
finds the lock free can take it, and unless the sink fails, its work is one line of the
table or ends in sleep, whatever the others do meanwhile. The lock being held, only
operations that do not wait for it are answered. All other steps keep the list, and a
failure of the sink closes it, if the thread was not failing before.
-/
structure Refines (history : List (Turn α)) (q : Queue α) : Prop where
  works
    : ∀ {thread sleptOn} {call : Call α},
        q.phase? thread = some (call.atDoor sleptOn)
        → call.operation.isInspection = false
        → q.holder = none
        → ∀ now preferred,
          ∃ progress,
            q.step? now thread (.enter preferred) = some progress
            ∧ ∀ {others late},
                Run progress.queue others late
                → (∀ turn ∈ others, turn.thread ≠ thread)
                → ∀ later,
                  ∃ ended,
                    late.step? later thread .leave = some ended
                    ∧ Concludes q.fifo (expired call.deadline now) call thread ended
  deadlines
    : ∀ {thread sleptOn} {call : Call α},
        q.phase? thread = some (call.atDoor sleptOn)
        → ∃ turn ∈ history,
          turn.thread = thread
          ∧ (∃ failing, turn.move = .call call.operation failing)
          ∧ call.deadline = call.operation.timeout.deadline q.clock turn.now
  busy
    : ∀ {thread holder} {call : Call α},
        q.phase? thread = some (.arrived call)
        → call.operation.isInspection = false
        → q.holder = some holder
        → ∀ now preferred,
          q.step? now thread (.enter preferred)
          = call.operation.busy?.map fun answer =>
              { queue := q.setPhase thread .idle, answer := some answer }
  inspects
    : ∀ {thread property} {call : Call α},
        q.phase? thread = some (.arrived call)
        → call.operation = .inspect property
        → ∀ now preferred,
          q.step? now thread (.enter preferred)
          = some
              { queue := q.setPhase thread .idle
                answer := some (q.config.inspect property) }
  stutters
    : ∀ {now thread move progress},
        q.step? now thread move = some progress
        → (move.isEntry = true
          → ∀ {sleptOn} {call : Call α},
            q.phase? thread = some (call.atDoor sleptOn)
            → q.holder = none
            → call.operation.isInspection = true)
        → progress.queue.fifo
          = if move.isFailure && (q.phase? thread).any Phase.poisons then
              { q.fifo with closed := true }
            else q.fifo

/-- A thread that has done its work ends it as the operation table says. -/
theorem Orderly.concludes {q late : Queue α} (orderly : q.Orderly) (now : Nat) {thread : Nat}
    {call : Call α} {sleptOn : Option Side}
    (door : q.phase? thread = some (call.atDoor sleptOn)) (preferred : List Nat)
    {others : List (Turn α)}
    (run
      : Run (q.enterWith thread call preferred (q.work now call sleptOn)).queue others late)
    (different : ∀ turn ∈ others, turn.thread ≠ thread) (free : q.holder = none)
    (locks : sleptOn = none → call.operation.isInspection = false) (later : Nat)
    : ∃ ended,
        late.step? later thread .leave = some ended
        ∧ Concludes q.fifo (expired call.deadline now) call thread ended := by
  obtain ⟨worked, answered⟩ :=
    worked_of_work orderly.sound now call sleptOn (orderly.came door)
  have enters : q.Transition now thread (.enter preferred) _ :=
    .enters sleptOn door free locks
  obtain ⟨_, inside, same⟩ :=
    run.undisturbed (orderly.transition enters) (phase?_enterWith_self door) rfl different
  rw [fifo_enterWith worked] at same
  have response := answered.response
  rw [Section.response] at response
  unfold entered at inside
  unfold Concludes
  -- The line of the table and the way in which the thread is inside go together.
  cases result : (q.work now call sleptOn).result with
  | answered answer =>
    rw [result] at inside response
    rw [response]
    have leaves : late.Transition later thread .leave _ := .ends inside
    exact ⟨_, leaves.step?, rfl, same, phase?_setPhase_self inside _⟩
  | waits side time =>
    rw [result] at inside response
    rw [response]
    have leaves : late.Transition later thread .leave _ := .sleeps inside
    obtain ⟨waiter, isOpen, _, nothing⟩ := Fifo.serve_eq_waits response
    refine ⟨_, leaves.step?, rfl, same.trans (fifo_of_waits worked answered result),
      phase?_setPhase_self inside _, waiter, isOpen, ?_, ?_⟩
    · intro producer
      subst producer
      exact Nat.le_antisymm orderly.sound.length_le (Nat.sub_eq_zero_iff_le.mp nothing)
    · intro consumer
      subst consumer
      exact List.eq_nil_of_length_eq_zero nothing

/-- What happens outside the lock keeps the list, by cases on what the thread does. -/
theorem Orderly.stutters {q : Queue α} (orderly : q.Orderly) {now thread : Nat}
    {move : Move α} {progress : Progress α}
    (transition : q.Transition now thread move progress)
    (outside
      : move.isEntry = true
        → ∀ {sleptOn} {call : Call α},
          q.phase? thread = some (call.atDoor sleptOn)
          → q.holder = none
          → call.operation.isInspection = true)
    : progress.queue.fifo
      = if move.isFailure && (q.phase? thread).any Phase.poisons then
          { q.fifo with closed := true }
        else q.fifo := by
  cases transition with
  | begins | inspects | refuses | stumbles | ends | sleeps | stirs => rfl
  | fails here reports healthy | failsGuarded here reports healthy =>
    have poisons : (q.phase? thread).any Phase.poisons = true := by
      simp [here, Phase.poisons, reports, healthy]
    rw [poisons]
    change { q.fifo with closed := q.state.closed || true } = _
    rw [Bool.or_true]
    rfl
  | failsAgain here reports unwinding =>
    have spares : (q.phase? thread).any Phase.poisons = false := by
      simp [here, Phase.poisons, reports, unwinding]
    rw [spares, Bool.and_false]
    rfl
  | @enters preferred call sleptOn door free locks =>
    have inspection := outside rfl door free
    have working : call.operation.isInspection = false := by
      cases sleptOn with
      | none => exact locks rfl
      | some side => exact Operation.not_inspection (orderly.came door rfl)
    cases working.symm.trans inspection
  | @cleansUp preferred call failing free =>
    obtain ⟨worked, shut, _, _⟩ := worked_of_failureWork orderly.sound
    have closed : q.fifo.closed = true := fifo_closed_of_poisoned (orderly.fits failing)
    have still : { q.fifo with closed := true } = q.fifo := by rw [← closed]
    rw [fifo_enterWith worked, shut]
    exact still

/-- Every reachable queue behaves as a plain list with a closed flag, whether open or closed
and with a poisoned lock counting as closed.
-/
theorem queue_refines_table {slotBytes threads : Nat} {clock : Clock} {config : Config}
    {values : List α}
    {fresh q : Queue α} {history : List (Turn α)}
    (created : (ofConfigAndItems slotBytes config (.ofList values)).result = .ok fresh)
    (run : Run (fresh.withThreads clock threads) history q)
    : q.Refines history := by
  have orderly := run.orderly created
  refine ⟨?works, ?deadlines, ?busy, ?inspects, ?stutters⟩
  case works =>
    intro thread sleptOn call door locks free now preferred
    have enters : q.Transition now thread (.enter preferred) _ :=
      .enters sleptOn door free fun _ => locks
    refine ⟨_, enters.step?, fun late different later => ?_⟩
    exact orderly.concludes now door preferred late different free (fun _ => locks) later
  case deadlines =>
    intro thread sleptOn call door
    have asks : (call.atDoor sleptOn).terms? = some (call.operation, call.deadline) := by
      cases sleptOn <;> rfl
    rw [run.clock_eq]
    exact run.terms_begun door asks
  case busy =>
    intro thread holder call arrived locks held now preferred
    change q.enter now thread preferred = _
    simp only [enter, arrived]
    exact enterArrived_of_held held locks
  case inspects =>
    intro thread property call arrived asks now preferred
    have answers : q.Transition now thread (.enter preferred) _ := .inspects arrived asks
    exact answers.step?
  case stutters =>
    intro now thread move progress made outside
    exact orderly.stutters (.of_step? made) outside

/-- A push gives up on a full queue and the sink fails under it, while a pop has called. -/
def expiredAndFailed : List (Nat × Nat × Move Nat) :=
  [(0, 0, .call (.waitPush 8 (.after 0)) false), (0, 0, .enter []),
    (1, 1, .call .tryPop false), (2, 0, .fail)]

/-- The poisoned queue still gives out its element, and counts as closed from then on. -/
theorem queue_refines_table_poisoned
    : let start := (ofRing (.ofCapacity 1) ((Ring.empty 1).pushed 7)).withThreads .ofWords 2
      let played := start.play expiredAndFailed
      played.2.poisoned = true
      ∧ played.2.state.closed = false
      ∧ played.2.fifo = { config := .ofCapacity 1, elements := [7], closed := true }
      ∧ played.2.Refines played.1 := by
  have created
      : (ofConfigAndItems 8 (.ofCapacity 1) (.ofList [7])).result
        = .ok (ofRing (.ofCapacity 1) ((Ring.empty 1).pushed 7)) := rfl
  exact ⟨rfl, rfl, rfl, queue_refines_table created (.of_play _ expiredAndFailed)⟩

end Queue

end Conduit
