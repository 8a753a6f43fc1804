import Conduit.Proofs.Queue.Calls
import Conduit.Proofs.Queue.Failures
import Conduit.World

/-! Runs of any programs on any number of queues.
Every step of a world is a step at one of its queues, so that what is known of the runs of a
queue is known of each queue of a world; what a program adds is which calls its thread
makes, and that it goes on with the answers.
-/

namespace Conduit

variable {σ τ α : Type}

/-- One step of a world: the call that it belongs to, and what happened at the queue. -/
structure Happening (α : Type) where
  request : Request α
  turn : Turn α

/-- Programs of two kinds side by side: each thread runs one of the one kind or of the other.
-/
def Program.beside (left : Program σ α) (right : Program τ α) : Program (σ ⊕ τ) α :=
  { request? := Sum.elim left.request? right.request?
    resume := fun program answer =>
      program.map (left.resume · answer) (right.resume · answer) }

/-- What has happened at one queue, oldest first. -/
def turnsAt (history : List (Happening α)) (k : Nat) : List (Turn α) :=
  history.filterMap fun happening =>
    if happening.request.queue = k then some happening.turn else none

theorem turnsAt_step (history : List (Happening α)) (happening : Happening α) (k : Nat)
    : turnsAt (history ++ [happening]) k
      = turnsAt history k ++ if happening.request.queue = k then [happening.turn] else [] := by
  unfold turnsAt
  rw [List.filterMap_append]
  by_cases same : happening.request.queue = k <;> simp [same]

theorem mem_turnsAt {history : List (Happening α)} {k : Nat} {turn : Turn α}
    : turn ∈ turnsAt history k
      ↔ ∃ happening ∈ history, happening.request.queue = k ∧ happening.turn = turn := by
  simp [turnsAt]

theorem mem_turnsAt_step {history : List (Happening α)} {k : Nat} {turn : Turn α}
    (member : turn ∈ turnsAt history k) (happening : Happening α)
    : turn ∈ turnsAt (history ++ [happening]) k := by
  rw [turnsAt_step]
  exact List.mem_append_left _ member

theorem newest_mem_turnsAt (history : List (Happening α)) {happening : Happening α} {k : Nat}
    (here : happening.request.queue = k)
    : happening.turn ∈ turnsAt (history ++ [happening]) k := by
  rw [turnsAt_step, if_pos here]
  exact List.mem_append_right _ (List.mem_singleton_self _)

namespace World

variable {p : Program σ α} {start w after : World σ α}

-----------------------------------------------------------------------------------------
-- Steps
-----------------------------------------------------------------------------------------

/-- What happens when a thread acts in the given way, if it can. -/
def happening? (p : Program σ α) (w : World σ α) (thread : Nat) (action : Action)
    : Option (Happening α) := do
  let request ← w.request? p thread
  let queue ← w.queues[request.queue]?
  let progress ← queue.step? w.now thread (action.move request)
  return { request, turn := ⟨w.now, thread, action.move request, progress⟩ }

/-- A step as the thread sees it that makes it: its program asks for a call, what happens is a
step at the queue of that call, and the program goes on when the call has ended.
-/
structure Acts (p : Program σ α) (w : World σ α) (program : σ) (queue : Queue α)
    (happening : Happening α) (after : World σ α) : Prop where
  runs : w.programs[happening.turn.thread]? = some program
  asks : p.request? program = some happening.request
  found : w.queues[happening.request.queue]? = some queue
  made
    : queue.step? happening.turn.now happening.turn.thread happening.turn.move
      = some happening.turn.progress
  calls
    : ∀ {operation failing},
        happening.turn.move = .call operation failing → operation = happening.request.operation
  queues
    : after.queues = w.queues.set happening.request.queue happening.turn.progress.queue
  programs
    : after.programs
      = match happening.turn.progress.answer with
        | some answer => w.programs.set happening.turn.thread (p.resume program answer)
        | none => w.programs

/-- Every step of a world is seen by the thread that makes it. -/
theorem Acts.of_step? {thread : Nat} {action : Action}
    (step : w.step? p thread action = some after)
    : ∃ program queue happening,
        w.happening? p thread action = some happening
        ∧ happening.turn.thread = thread
        ∧ w.Acts p program queue happening after := by
  simp only [step?, stepBy?, Option.bind_eq_bind, Option.bind_eq_some_iff, Option.pure_def,
    Option.some.injEq] at step
  obtain ⟨program, runs, request, asks, queue, found, _, _, _, rfl, progress, made, rfl⟩ := step
  refine ⟨program, queue, ⟨request, ⟨w.now, thread, action.move request, progress⟩⟩, ?_, rfl,
    ⟨runs, asks, found, made, ?_, rfl, rfl⟩⟩
  · simp [happening?, World.request?, runs, asks, found, made]
  · intro operation failing calls
    cases action <;> cases calls
    rfl

/-- A step whose action is chosen by where the thread is, is a step with that action. -/
theorem step?_of_stepBy? {thread : Nat} {choose : Phase α → Option Action}
    (made : w.stepBy? p thread choose = some after)
    : ∃ (k : Nat) (queue : Queue α) (phase : Phase α) (action : Action),
        w.queues[k]? = some queue
        ∧ queue.phase? thread = some phase
        ∧ choose phase = some action
        ∧ w.step? p thread action = some after := by
  simp only [stepBy?, Option.bind_eq_bind, Option.bind_eq_some_iff] at made
  obtain ⟨program, runs, request, asks, queue, here, phase, found, action, next, progress, step,
    same⟩ := made
  refine ⟨request.queue, queue, phase, action, here, found, next, ?_⟩
  simp [step?, stepBy?, runs, asks, here, found, step, ← same]

/-- What a step needs that a thread makes at the queue that it calls, and what happens in it.
-/
theorem step?_of_queue {thread : Nat} {program : σ} {request : Request α} {q : Queue α}
    (action : Action) {progress : Progress α} (runs : w.programs[thread]? = some program)
    (asks : p.request? program = some request) (found : w.queues[request.queue]? = some q)
    (made : q.step? w.now thread (action.move request) = some progress)
    : ∃ after,
        w.step? p thread action = some after
        ∧ w.happening? p thread action
          = some ⟨request, ⟨w.now, thread, action.move request, progress⟩⟩ := by
  obtain ⟨phase, _, there, _⟩ := (Queue.Transition.of_step? made).present
  simp [step?, stepBy?, happening?, World.request?, runs, asks, found, there, made]

/-- A step takes no time, and what the queue reports in it is recorded. -/
theorem step?_frame {thread : Nat} {action : Action} {happening : Happening α}
    (made : w.step? p thread action = some after)
    (happens : w.happening? p thread action = some happening)
    : happening.turn.now = w.now
      ∧ happening.turn.move = action.move happening.request
      ∧ after.now = w.now
      ∧ after.log = happening.turn.progress.events.reverse ++ w.log := by
  simp only [step?, stepBy?, Option.bind_eq_bind, Option.bind_eq_some_iff, Option.pure_def,
    Option.some.injEq] at made
  obtain ⟨program, runs, request, asks, queue, found, _, _, _, rfl, progress, steps, rfl⟩ := made
  simp only [happening?, World.request?, runs, asks, found, steps, Option.bind_eq_bind,
    Option.bind_some, Option.pure_def, Option.some.injEq] at happens
  obtain rfl := happens
  exact ⟨rfl, rfl, rfl, rfl⟩

/-- A run from `start`: what has happened so far, oldest first, and the world it led to. Which
thread acts and how, and how much time passes, is left open.
-/
inductive Run (p : Program σ α) (start : World σ α) : List (Happening α) → World σ α → Prop
  | start : Run p start [] start
  | step {history w thread action after} (before : Run p start history w)
    (made : w.step? p thread action = some after)
    : Run p start (history ++ (w.happening? p thread action).toList) after
  | wait {history w} (before : Run p start history w) (tick : Nat)
    : Run p start history (w.wait tick)

/-- What holds at first, is kept by every step and does not depend on the time holds after
every run. The run that leads up to a step is at hand, and the one that the step leads to.
-/
theorem Run.grow {history : List (Happening α)} (run : Run p start history w)
    {P : List (Happening α) → World σ α → Prop} (first : P [] start)
    (acts
      : ∀ {history w program queue happening after},
          Run p start history w
          → P history w
          → w.Acts p program queue happening after
          → Run p start (history ++ [happening]) after
          → P (history ++ [happening]) after)
    (waits : ∀ {history} {w : World σ α} tick, P history w → P history (w.wait tick))
    : P history w := by
  induction run with
  | start => exact first
  | @step history w thread action after before made ih =>
    obtain ⟨program, queue, happening, happens, _, act⟩ := Acts.of_step? made
    have next : Run p start (history ++ (w.happening? p thread action).toList) after :=
      .step before made
    rw [happens] at next ⊢
    exact acts before ih act next
  | wait before tick ih => exact waits tick ih

/-- The same where the run that the step leads to is not needed. -/
theorem Run.induct {history : List (Happening α)} (run : Run p start history w)
    {P : List (Happening α) → World σ α → Prop} (first : P [] start)
    (acts
      : ∀ {history w program queue happening after},
          Run p start history w
          → P history w
          → w.Acts p program queue happening after
          → P (history ++ [happening]) after)
    (waits : ∀ {history} {w : World σ α} tick, P history w → P history (w.wait tick))
    : P history w :=
  run.grow first (fun before holds act _ => acts before holds act) waits

theorem Run.append {middle last : World σ α} {early late : List (Happening α)}
    (first : Run p start early middle) (second : Run p middle late last)
    : Run p start (early ++ late) last := by
  induction second with
  | start => rwa [List.append_nil]
  | step _ made ih =>
    rw [← List.append_assoc]
    exact .step ih made
  | wait _ tick ih => exact .wait ih tick

/-- A run goes on with a step of which it is known what happens in it. -/
theorem Run.next {history : List (Happening α)} (run : Run p start history w) {thread : Nat}
    {action : Action} {happening : Happening α} (made : w.step? p thread action = some after)
    (happens : w.happening? p thread action = some happening)
    : Run p start (history ++ [happening]) after
      ∧ happening.turn.thread = thread
      ∧ ∃ program queue, w.Acts p program queue happening after := by
  obtain ⟨program, queue, same, found, own, acts⟩ := Acts.of_step? made
  obtain rfl := Option.some.inj (happens.symm.trans found)
  have next : Run p start (history ++ (w.happening? p thread action).toList) after :=
    .step run made
  rw [happens] at next
  exact ⟨next, own, program, queue, acts⟩

/-- Plays the given actions and records what happens, as long as they can be made. -/
def play (p : Program σ α) (w : World σ α) : List (Nat × Action) → List (Happening α) × World σ α
  | [] => ([], w)
  | (thread, action) :: rest =>
    match w.step? p thread action with
    | none => ([], w)
    | some after =>
      let (happenings, last) := after.play p rest
      ((w.happening? p thread action).toList ++ happenings, last)

/-- What has been played is a run. -/
theorem Run.of_play (p : Program σ α) (w : World σ α) (actions : List (Nat × Action))
    : Run p w (w.play p actions).1 (w.play p actions).2 := by
  induction actions generalizing w with
  | nil => exact .start
  | cons head rest ih =>
    obtain ⟨thread, action⟩ := head
    unfold play
    split
    · exact .start
    · rename_i after made
      have first : Run p w ([] ++ (w.happening? p thread action).toList) after :=
        .step .start made
      exact first.append (ih after)

/-- The given threads make the calls of their programs, one after the other. -/
def calls (threads : List Nat) : List (Nat × Action) :=
  threads.flatMap fun thread => [(thread, .begin), (thread, .enter []), (thread, .leave)]

-----------------------------------------------------------------------------------------
-- What a step leaves alone
-----------------------------------------------------------------------------------------

section
variable {program : σ} {queue : Queue α} {happening : Happening α}

theorem Acts.queue_self (acts : w.Acts p program queue happening after)
    : after.queues[happening.request.queue]? = some happening.turn.progress.queue := by
  rw [acts.queues]
  exact List.getElem?_set_self (List.getElem?_eq_some_iff.mp acts.found).1

theorem Acts.queue_other (acts : w.Acts p program queue happening after) {k : Nat}
    (different : k ≠ happening.request.queue)
    : after.queues[k]? = w.queues[k]? := by
  rw [acts.queues]
  exact List.getElem?_set_ne (Ne.symm different)

/-- A step of a thread does not touch the programs of the others. -/
theorem Acts.program_other (acts : w.Acts p program queue happening after) {thread : Nat}
    (different : thread ≠ happening.turn.thread)
    : after.programs[thread]? = w.programs[thread]? := by
  rw [acts.programs]
  split
  · exact List.getElem?_set_ne (Ne.symm different)
  · rfl

/-- A program stays as it is until its call has ended. -/
theorem Acts.program_waits (acts : w.Acts p program queue happening after)
    (unanswered : happening.turn.progress.answer = none)
    : after.programs = w.programs := by
  rw [acts.programs, unanswered]

theorem Acts.program_resumes (acts : w.Acts p program queue happening after)
    {answer : Answer α} (answered : happening.turn.progress.answer = some answer)
    : after.programs[happening.turn.thread]? = some (p.resume program answer) := by
  rw [acts.programs, answered]
  exact List.getElem?_set_self (List.getElem?_eq_some_iff.mp acts.runs).1

end

-----------------------------------------------------------------------------------------
-- One queue of a world
-----------------------------------------------------------------------------------------

/-- Queue `k` of a world has just been created with these values, for all threads of the
world, with some clock to wait by.
-/
def Opens (w : World σ α) (k : Nat) (values : List α) : Prop :=
  ∃ slotBytes config fresh clock,
    (Queue.ofConfigAndItems slotBytes config (.ofList values)).result = .ok fresh
    ∧ w.queues[k]? = some (fresh.withThreads clock w.programs.length)

/-- A queue is open at first. -/
theorem Opens.isOpen {k : Nat} {values : List α} (opens : start.Opens k values) {q : Queue α}
    (here : start.queues[k]? = some q)
    : q.fifo.closed = false := by
  obtain ⟨_, _, fresh, _, created, found⟩ := opens
  obtain rfl := Option.some.inj (found.symm.trans here)
  obtain ⟨ring, rfl, _⟩ := Queue.created_eq created
  rfl

/-- What happens at one queue of a world is a run of that queue, by induction on the run. -/
theorem Run.queue {history : List (Happening α)} (run : Run p start history w) {k : Nat}
    {first : Queue α} (found : start.queues[k]? = some first)
    : ∃ last, w.queues[k]? = some last ∧ Queue.Run first (turnsAt history k) last := by
  refine run.induct (P := fun history w =>
    ∃ last, w.queues[k]? = some last ∧ Queue.Run first (turnsAt history k) last) ?_ ?_ ?_
  · exact ⟨first, found, .start⟩
  · intro history w program queue happening after _ known acts
    obtain ⟨last, here, before⟩ := known
    rw [turnsAt_step]
    by_cases same : happening.request.queue = k
    · subst same
      obtain rfl := Option.some.inj (acts.found.symm.trans here)
      rw [if_pos rfl]
      exact ⟨_, acts.queue_self, .step before acts.made⟩
    · rw [if_neg same, List.append_nil]
      exact ⟨last, (acts.queue_other (Ne.symm same)).trans here, before⟩
  · exact fun tick known => known

/-- A thread that runs a program has a place at every queue that has been opened for it. -/
theorem Run.place {history : List (Happening α)} (run : Run p start history w) {k : Nat}
    {values : List α} (opens : start.Opens k values) {thread : Nat} {program : σ}
    (runs : start.programs[thread]? = some program)
    : ∃ queue phase, w.queues[k]? = some queue ∧ queue.phase? thread = some phase := by
  obtain ⟨slotBytes, config, fresh, clock, created, found⟩ := opens
  obtain ⟨queue, here, inner⟩ := run.queue found
  have within : thread < start.programs.length := (List.getElem?_eq_some_iff.mp runs).1
  have first : (fresh.withThreads clock start.programs.length).phase? thread = some .idle := by
    simp [Queue.phase?, Queue.withThreads, within]
  obtain ⟨phase, there⟩ := inner.present first
  exact ⟨queue, phase, here, there⟩

/-- A queue that has been opened for a world is one that has run since its creation. -/
theorem Run.opened {history : List (Happening α)} (run : Run p start history w) {k : Nat}
    {values : List α} (opens : start.Opens k values)
    : ∃ slotBytes config fresh clock threads queue,
        (Queue.ofConfigAndItems slotBytes config (.ofList values)).result = .ok fresh
        ∧ w.queues[k]? = some queue
        ∧ Queue.Run (fresh.withThreads clock threads) (turnsAt history k) queue := by
  obtain ⟨slotBytes, config, fresh, clock, created, found⟩ := opens
  obtain ⟨queue, here, inner⟩ := run.queue found
  exact ⟨slotBytes, config, fresh, clock, _, queue, created, here, inner⟩

/-- What is known of every run from the creation of a queue on is known of it in a world. -/
theorem Run.queue_known {history : List (Happening α)} (run : Run p start history w) {k : Nat}
    {values : List α} (opens : start.Opens k values)
    : ∃ queue, w.queues[k]? = some queue ∧ queue.Known fun _ => True := by
  obtain ⟨_, _, _, _, _, queue, created, here, inner⟩ := run.opened opens
  exact ⟨queue, here, inner.known_of_created created⟩

theorem Run.known {history : List (Happening α)} (run : Run p start history w) {k : Nat}
    {values : List α} (opens : start.Opens k values) {queue : Queue α}
    (here : w.queues[k]? = some queue)
    : queue.Known fun _ => True := by
  obtain ⟨same, there, known⟩ := run.queue_known opens
  obtain rfl := Option.some.inj (here.symm.trans there)
  exact known

/-- A call in progress at a queue is the one that the program of its thread asks for, by
induction on the run.
-/
theorem Run.faithful {history : List (Happening α)} (run : Run p start history w) {k : Nat}
    {values : List α} (opens : start.Opens k values)
    : ∀ {queue thread phase operation deadline},
        w.queues[k]? = some queue
        → queue.phase? thread = some phase
        → phase.terms? = some (operation, deadline)
        → ∃ program request,
          w.programs[thread]? = some program
          ∧ p.request? program = some request
          ∧ request.queue = k
          ∧ request.operation = operation := by
  refine run.induct (P := fun _ w =>
    ∀ {queue thread phase operation deadline},
      w.queues[k]? = some queue
      → queue.phase? thread = some phase
      → phase.terms? = some (operation, deadline)
      → ∃ program request,
        w.programs[thread]? = some program
        ∧ p.request? program = some request
        ∧ request.queue = k
        ∧ request.operation = operation) ?_ ?_ ?_
  · intro queue thread phase operation deadline here found asks
    obtain ⟨_, _, fresh, _, _, first⟩ := opens
    obtain rfl := Option.some.inj (first.symm.trans here)
    obtain rfl := Queue.phase?_withThreads found
    cases asks
  · intro history w program met happening after before faithful acts queue thread phase
      operation deadline here found asks
    have transition := Queue.Transition.of_step? acts.made
    by_cases same : happening.request.queue = k
    · subst same
      obtain rfl := Option.some.inj (acts.queue_self.symm.trans here)
      have known := before.known opens acts.found
      by_cases own : thread = happening.turn.thread
      · subst own
        -- While the thread is in a call, its program has not gone on.
        have unanswered : happening.turn.progress.answer = none := by
          cases answered : happening.turn.progress.answer with
          | none => rfl
          | some answer =>
            obtain ⟨_, _, _, _, _, idle, _⟩ := known.reply transition answered
            obtain rfl := Option.some.inj (idle.symm.trans found)
            cases asks
        rw [acts.program_waits unanswered]
        rcases transition.terms_cases found asks with
          ⟨old, earlier, same⟩ | ⟨_, ⟨failing, calls⟩, _⟩
        · exact faithful acts.found earlier same
        · exact ⟨program, happening.request, acts.runs, acts.asks, rfl, (acts.calls calls).symm⟩
      · rw [acts.program_other own]
        rcases transition.terms_cases found asks with ⟨old, earlier, same⟩ | ⟨same, _⟩
        · exact faithful acts.found earlier same
        · exact absurd same own
    · rw [acts.queue_other (Ne.symm same)] at here
      obtain ⟨mine, request, runs, wants, there, operation⟩ := faithful here found asks
      have other : thread ≠ happening.turn.thread := by
        intro own
        subst own
        obtain rfl := Option.some.inj (acts.runs.symm.trans runs)
        obtain rfl := Option.some.inj (acts.asks.symm.trans wants)
        exact same there
      exact ⟨mine, request, (acts.program_other other).trans runs, wants, there, operation⟩
  · exact fun tick faithful => faithful

-----------------------------------------------------------------------------------------
-- Answers
-----------------------------------------------------------------------------------------

section
variable {history : List (Happening α)} {program : σ} {queue : Queue α}
  {happening : Happening α} {values : List α}

/-- The call that a thread is in where it acts is the one that its program asks for. A call
that may wait for ever has no deadline.
-/
theorem Run.terms (run : Run p start history w)
    (opens : start.Opens happening.request.queue values)
    (acts : w.Acts p program queue happening after) {phase : Phase α}
    {operation : Operation α} {deadline : Option Nat}
    (found : queue.phase? happening.turn.thread = some phase)
    (asks : phase.terms? = some (operation, deadline))
    : operation = happening.request.operation
      ∧ (operation.timeout = .infinite → deadline = none) := by
  obtain ⟨mine, request, runs, wants, _, rfl⟩ := run.faithful opens acts.found found asks
  obtain rfl := Option.some.inj (acts.runs.symm.trans runs)
  obtain rfl := Option.some.inj (acts.asks.symm.trans wants)
  refine ⟨rfl, fun unlimited => ?_⟩
  obtain ⟨_, _, _, _, _, _, _, here, inner⟩ := run.opened opens
  obtain rfl := Option.some.inj (acts.found.symm.trans here)
  obtain ⟨turn, _, _, _, same⟩ := inner.terms_begun found asks
  simp only [unlimited] at same
  exact same

/-- A step that ends the call of a program gives it an answer that the operation accounts for.
-/
theorem Run.reply (run : Run p start history w)
    (opens : start.Opens happening.request.queue values)
    (acts : w.Acts p program queue happening after) {M : Fifo α → Prop} (known : queue.Known M)
    {answer : Answer α} (answered : happening.turn.progress.answer = some answer)
    : ∃ deadline,
        (happening.request.operation.timeout = .infinite → deadline = none)
        ∧ queue.Reply M happening.request.operation deadline happening.turn.progress.queue
          answer := by
  obtain ⟨phase, operation, deadline, found, asks, _, reply⟩ :=
    known.reply (.of_step? acts.made) answered
  obtain ⟨rfl, unlimited⟩ := run.terms opens acts found asks
  exact ⟨deadline, unlimited, reply⟩

/-- A program that may wait for the other side is answered when its thread gives the lock
back, and that does nothing else, unless the sink fails.
-/
theorem Run.leaves_of_waiter (run : Run p start history w)
    (opens : start.Opens happening.request.queue values)
    (acts : w.Acts p program queue happening after) {answer : Answer α}
    (answered : happening.turn.progress.answer = some answer) (told : answer ≠ .sinkFailed)
    {side : Side} (waits : happening.request.operation.side? = some side)
    : (∃ call reporting,
        queue.phase? happening.turn.thread = some (.inside call (.answered answer) reporting)
        ∧ call.operation = happening.request.operation)
      ∧ happening.turn.move = .leave
      ∧ happening.turn.progress
        = { queue := { queue with holder := none }.setPhase happening.turn.thread .idle
            answer := some answer } := by
  obtain ⟨⟨call, reporting, inside⟩, leaves, progress⟩ :=
    (Queue.Transition.of_step? acts.made).leaves_of_waiter answered told fun found asks => by
      rw [(run.terms opens acts found asks).1]
      exact waits
  exact ⟨⟨call, reporting, inside, (run.terms opens acts inside rfl).1⟩, leaves, progress⟩

/-- The sink fails under a call that may wait for ever only if its thread has stumbled over a
poisoned lock.
-/
theorem Run.stumbled_of_sinkFailed (run : Run p start history w)
    (opens : start.Opens happening.request.queue values)
    (acts : w.Acts p program queue happening after)
    (answered : happening.turn.progress.answer = some .sinkFailed) {side : Side}
    (waits : happening.request.operation.side? = some side)
    (unlimited : happening.request.operation.timeout = .infinite)
    : Stumbled (turnsAt history happening.request.queue) happening.turn.thread := by
  obtain ⟨_, _, _, _, _, _, created, here, inner⟩ := run.opened opens
  obtain rfl := Option.some.inj (acts.found.symm.trans here)
  have transition := Queue.Transition.of_step? acts.made
  obtain ⟨_, _, _, found, asks, _⟩ := (run.known opens acts.found).reply transition answered
  obtain ⟨rfl, endless⟩ := run.terms opens acts found asks
  rcases inner.reason_of_sinkFailed created transition answered found asks with
    closes | timed | stumbled
  · rw [closes] at waits
    cases waits
  · rw [endless unlimited] at timed
    cases timed
  · exact stumbled

/-- The calls of a run are those that the programs have asked for, by induction on the run. -/
theorem Run.asked (run : Run p start history w)
    : ∀ happening ∈ history,
        ∀ operation failing,
          happening.turn.move = .call operation failing
          → ∃ program request,
            p.request? program = some request ∧ request.operation = operation := by
  refine run.induct (P := fun history _ =>
    ∀ happening ∈ history,
      ∀ operation failing,
        happening.turn.move = .call operation failing
        → ∃ program request,
          p.request? program = some request ∧ request.operation = operation) ?_ ?_ fun _ => id
  · intro happening member
    cases member
  · intro history w program queue newest after before known acts happening member operation
      failing calls
    rcases List.mem_append.mp member with earlier | same
    · exact known happening earlier operation failing calls
    · obtain rfl := List.mem_singleton.mp same
      exact ⟨program, happening.request, acts.asks, (acts.calls calls).symm⟩

/-- Nobody stumbles over a poisoned lock where programs only ask for calls that may wait for
ever.
-/
theorem Run.steady_of_unlimited (run : Run p start history w) {k : Nat}
    (opens : start.Opens k values)
    (unlimited
      : ∀ {program request},
          p.request? program = some request → request.operation.timeout = .infinite)
    : Steady (turnsAt history k) := by
  obtain ⟨_, _, _, _, _, _, created, _, inner⟩ := run.opened opens
  refine (inner.steady_of_unlimited created fun turn passed operation failing calls => ?_).1
  obtain ⟨happening, happened, _, rfl⟩ := mem_turnsAt.mp passed
  obtain ⟨_, _, asks, rfl⟩ := run.asked happening happened operation failing calls
  exact unlimited asks

/-- A pop that may wait for ever ends with an element or the end of the stream, unless its
thread has stumbled over a poisoned lock.
-/
theorem Run.waitPop_cases (run : Run p start history w)
    (opens : start.Opens happening.request.queue values)
    (acts : w.Acts p program queue happening after) {answer : Answer α}
    (answered : happening.turn.progress.answer = some answer)
    (pops : happening.request.operation = .waitPop .infinite)
    : (∃ value, answer = .pop (.ok value))
      ∨ answer = .pop (.error .closed)
      ∨ answer = .sinkFailed
        ∧ Stumbled (turnsAt history happening.request.queue) happening.turn.thread := by
  obtain ⟨deadline, unlimited, reply⟩ :=
    run.reply opens acts (run.known opens acts.found) answered
  rw [pops] at unlimited reply
  obtain rfl := unlimited rfl
  rcases reply.waitPop_cases with taken | ended | rfl
  · exact Or.inl taken
  · exact Or.inr (Or.inl ended)
  · refine Or.inr (Or.inr ⟨rfl, ?_⟩)
    exact run.stumbled_of_sinkFailed opens acts answered (by rw [pops]; rfl) (by rw [pops]; rfl)

/-- A push that may wait for ever ends with its value stored or refused by a closed queue,
unless its thread has stumbled over a poisoned lock.
-/
theorem Run.waitPush_cases (run : Run p start history w)
    (opens : start.Opens happening.request.queue values)
    (acts : w.Acts p program queue happening after) {answer : Answer α}
    (answered : happening.turn.progress.answer = some answer) {value : α}
    (pushes : happening.request.operation = .waitPush value .infinite)
    : answer = .push (.ok ())
      ∨ answer = .push (.error (.closed value))
      ∨ answer = .sinkFailed
        ∧ Stumbled (turnsAt history happening.request.queue) happening.turn.thread := by
  obtain ⟨deadline, unlimited, reply⟩ :=
    run.reply opens acts (run.known opens acts.found) answered
  rw [pushes] at unlimited reply
  obtain rfl := unlimited rfl
  rcases reply.waitPush_cases with stored | refused | rfl
  · exact Or.inl stored
  · exact Or.inr (Or.inl refused)
  · refine Or.inr (Or.inr ⟨rfl, ?_⟩)
    exact run.stumbled_of_sinkFailed opens acts answered (by rw [pushes]; rfl)
      (by rw [pushes]; rfl)

/-- A close ends well unless the sink fails. -/
theorem Run.close_cases (run : Run p start history w)
    (opens : start.Opens happening.request.queue values)
    (acts : w.Acts p program queue happening after) {answer : Answer α}
    (answered : happening.turn.progress.answer = some answer)
    (closes : happening.request.operation = .close)
    : answer = .done ∨ answer = .sinkFailed := by
  obtain ⟨deadline, _, reply⟩ := run.reply opens acts (run.known opens acts.found) answered
  rw [closes] at reply
  exact reply.closed_close.2

/-- An open queue stays open when some thread acts, unless it closes it or the sink fails
under a wait of it that had a deadline.
-/
theorem Run.stays_open (run : Run p start history w) {k : Nat} (opens : start.Opens k values)
    (acts : w.Acts p program queue happening after)
    (isOpen : ∀ {q}, w.queues[k]? = some q → q.fifo.closed = false)
    (gentle
      : happening.request.queue = k
        → happening.request.operation.isClose = false
          ∧ (happening.turn.move.isFailure = false
            ∨ happening.request.operation.timeout = .infinite))
    {q : Queue α} (here : after.queues[k]? = some q)
    : q.fifo.closed = false := by
  by_cases same : happening.request.queue = k
  · subst same
    obtain rfl := Option.some.inj (acts.queue_self.symm.trans here)
    rw [Bool.eq_false_iff]
    intro closed
    obtain ⟨leaves, harmless⟩ := gentle rfl
    obtain ⟨phase, operation, deadline, found, asks, cause⟩ :=
      (run.known opens acts.found).closing (.of_step? acts.made) (isOpen acts.found) closed
    obtain ⟨rfl, unlimited⟩ := run.terms opens acts found asks
    rcases cause with closes | ⟨fails, timed⟩
    · rw [closes] at leaves
      cases leaves
    · rcases harmless with healthy | infinite
      · cases healthy.symm.trans fails
      · rw [unlimited infinite] at timed
        cases timed
  · exact isOpen ((acts.queue_other (Ne.symm same)).symm.trans here)

end

-----------------------------------------------------------------------------------------
-- What a program has been told
-----------------------------------------------------------------------------------------

end World

/-- The values that a thread has been handed from a queue, in their order. -/
def handed (history : List (Happening α)) (k thread : Nat) : List α :=
  history.flatMap fun happening =>
    if happening.request.queue = k ∧ happening.turn.thread = thread then
      handedBy happening.turn.progress.answer
    else []

/-- The values that a thread has been told to be stored in a queue, in their order. -/
def confirmed (history : List (Happening α)) (k thread : Nat) : List α :=
  history.flatMap fun happening =>
    if happening.request.queue = k ∧ happening.turn.thread = thread then
      happening.turn.progress.answer.elim [] fun answer =>
        answer.accepted happening.request.operation
    else []

/-- The answers that a thread has got from a queue, oldest first. -/
def replies (history : List (Happening α)) (k thread : Nat) : List (Answer α) :=
  Queue.repliesTo (turnsAt history k) thread

/-- Every answer that a thread has got was given in some turn. -/
theorem turn_of_replies {history : List (Happening α)} {k thread : Nat} {answer : Answer α}
    (given : answer ∈ replies history k thread)
    : ∃ turn ∈ turnsAt history k, turn.progress.answer = some answer := by
  obtain ⟨turn, member, tells⟩ := List.mem_filterMap.mp given
  split at tells
  · exact ⟨turn, member, tells⟩
  · cases tells

/-- The values that a thread has taken out of a queue, in their order. -/
def takenFrom (history : List (Happening α)) (k thread : Nat) : List α :=
  ((Queue.takenBy (turnsAt history k)).filter fun exit => exit.1 == thread).map Prod.snd

/-- The values that a thread has stored in a queue, in their order. -/
def storedIn (history : List (Happening α)) (k thread : Nat) : List α :=
  ((Queue.storedBy (turnsAt history k)).filter fun entry => entry.1 == thread).map Prod.snd

section
variable (history : List (Happening α)) (happening : Happening α)

theorem handed_step (k thread : Nat)
    : handed (history ++ [happening]) k thread
      = handed history k thread
        ++ if happening.request.queue = k ∧ happening.turn.thread = thread then
            handedBy happening.turn.progress.answer
          else [] := by
  rw [handed, List.flatMap_append, List.flatMap_singleton]
  rfl

theorem confirmed_step (k thread : Nat)
    : confirmed (history ++ [happening]) k thread
      = confirmed history k thread
        ++ if happening.request.queue = k ∧ happening.turn.thread = thread then
            happening.turn.progress.answer.elim [] fun answer =>
              answer.accepted happening.request.operation
          else [] := by
  rw [confirmed, List.flatMap_append, List.flatMap_singleton]
  rfl

theorem replies_step (k thread : Nat)
    : replies (history ++ [happening]) k thread
      = replies history k thread
        ++ if happening.request.queue = k ∧ happening.turn.thread = thread then
            happening.turn.progress.answer.toList
          else [] := by
  unfold replies
  rw [turnsAt_step]
  by_cases there : happening.request.queue = k
  · by_cases own : happening.turn.thread = thread
    · subst own
      rw [if_pos there, Queue.repliesTo_step_self, if_pos ⟨there, rfl⟩]
    · rw [if_pos there, Queue.repliesTo_step_other _ own, if_neg fun both => own both.2,
        List.append_nil]
  · rw [if_neg there, if_neg fun both => there both.1, List.append_nil, List.append_nil]

theorem takenFrom_step (k thread : Nat)
    : takenFrom (history ++ [happening]) k thread
      = takenFrom history k thread
        ++ if happening.request.queue = k ∧ happening.turn.thread = thread then
            happening.turn.taken
          else [] := by
  unfold takenFrom
  rw [turnsAt_step]
  by_cases there : happening.request.queue = k
  · rw [if_pos there, Queue.takenBy_step]
    simp only [there, true_and]
  · simp [there]

theorem storedIn_step (k thread : Nat)
    : storedIn (history ++ [happening]) k thread
      = storedIn history k thread
        ++ if happening.request.queue = k ∧ happening.turn.thread = thread then
            happening.turn.stored
          else [] := by
  unfold storedIn
  rw [turnsAt_step]
  by_cases there : happening.request.queue = k
  · rw [if_pos there, Queue.storedBy_step]
    simp only [there, true_and]
  · simp [there]

variable {happening} in
/-- What a thread learns when a call of it at the queue has ended. -/
theorem learns {k thread : Nat} {answer : Answer α} (here : happening.request.queue = k)
    (own : happening.turn.thread = thread)
    (answered : happening.turn.progress.answer = some answer)
    : handed (history ++ [happening]) k thread = handed history k thread ++ answer.handedOut
      ∧ confirmed (history ++ [happening]) k thread
        = confirmed history k thread ++ answer.accepted happening.request.operation
      ∧ replies (history ++ [happening]) k thread = replies history k thread ++ [answer] := by
  rw [handed_step, confirmed_step, replies_step, if_pos ⟨here, own⟩, if_pos ⟨here, own⟩,
    if_pos ⟨here, own⟩, answered]
  exact ⟨rfl, rfl, rfl⟩

/-- A step that ends no call of the thread at the queue tells it nothing. -/
theorem learns_nothing (k thread : Nat)
    (quiet
      : happening.request.queue = k
        → happening.turn.thread = thread
        → happening.turn.progress.answer = none)
    : handed (history ++ [happening]) k thread = handed history k thread
      ∧ confirmed (history ++ [happening]) k thread = confirmed history k thread
      ∧ replies (history ++ [happening]) k thread = replies history k thread := by
  rw [handed_step, confirmed_step, replies_step]
  by_cases both : happening.request.queue = k ∧ happening.turn.thread = thread
  · rw [if_pos both, if_pos both, if_pos both, quiet both.1 both.2]
    exact ⟨List.append_nil _, List.append_nil _, List.append_nil _⟩
  · rw [if_neg both, if_neg both, if_neg both]
    exact ⟨List.append_nil _, List.append_nil _, List.append_nil _⟩

end

namespace World

variable {p : Program σ α} {start w after : World σ α} {history : List (Happening α)}

/-- What a thread has moved is what it has been told of and what it is about to be told of. -/
structure Told (history : List (Happening α)) (k thread : Nat) (phase : Phase α) : Prop where
  taken : takenFrom history k thread = handed history k thread ++ phase.carried
  stored : storedIn history k thread = confirmed history k thread ++ phase.unreported

section
variable {k thread : Nat} {old phase : Phase α} {happening : Happening α}

/-- A step of another thread, or at another queue. -/
theorem Told.kept (told : Told history k thread old)
    (elsewhere : ¬(happening.request.queue = k ∧ happening.turn.thread = thread))
    (carried : phase.carried = old.carried) (unreported : phase.unreported = old.unreported)
    : Told (history ++ [happening]) k thread phase where
  taken := by
    rw [takenFrom_step, handed_step, if_neg elsewhere, if_neg elsewhere, List.append_nil,
      List.append_nil, told.taken, carried]
  stored := by
    rw [storedIn_step, confirmed_step, if_neg elsewhere, if_neg elsewhere, List.append_nil,
      List.append_nil, told.stored, unreported]

/-- A step of the thread itself at this queue. -/
theorem Told.grows (told : Told history k thread old)
    (here : happening.request.queue = k ∧ happening.turn.thread = thread)
    (hands
      : old.carried ++ happening.turn.taken
        = handedBy happening.turn.progress.answer ++ phase.carried)
    (confirms
      : old.unreported ++ happening.turn.stored
        = (happening.turn.progress.answer.elim [] fun answer =>
            answer.accepted happening.request.operation) ++ phase.unreported)
    : Told (history ++ [happening]) k thread phase where
  taken := by
    rw [takenFrom_step, handed_step, if_pos here, if_pos here, told.taken, List.append_assoc,
      hands, List.append_assoc]
  stored := by
    rw [storedIn_step, confirmed_step, if_pos here, if_pos here, told.stored,
      List.append_assoc, confirms, List.append_assoc]

end

/-- What a thread is told is said of the operation that its program has asked for. -/
theorem Run.confirmed_eq (run : Run p start history w) {program : σ} {queue : Queue α}
    {happening : Happening α} {values : List α}
    (opens : start.Opens happening.request.queue values)
    (acts : w.Acts p program queue happening after) {old : Phase α}
    (found : queue.phase? happening.turn.thread = some old)
    : old.confirmed happening.turn.progress.answer
      = happening.turn.progress.answer.elim [] fun answer =>
          answer.accepted happening.request.operation := by
  cases asks : old.terms? with
  | none =>
    have idle := Phase.idle_of_terms asks
    rw [idle] at found
    obtain ⟨call, _, same⟩ := (Queue.Transition.of_step? acts.made).of_idle found
    rw [same, idle]
    rfl
  | some terms =>
    obtain ⟨operation, deadline⟩ := terms
    obtain ⟨mine, request, runs, wants, _, rfl⟩ := run.faithful opens acts.found found asks
    obtain rfl := Option.some.inj (acts.runs.symm.trans runs)
    obtain rfl := Option.some.inj (acts.asks.symm.trans wants)
    unfold Phase.confirmed
    rw [asks]
    cases happening.turn.progress.answer <;> rfl

/-- Every thread is told of what it has moved, sooner or later; by induction on the run. -/
theorem Run.told (run : Run p start history w) {k : Nat} {values : List α}
    (opens : start.Opens k values)
    : ∀ {queue thread phase},
        w.queues[k]? = some queue
        → queue.phase? thread = some phase
        → Told history k thread phase := by
  refine run.induct (P := fun history w =>
    ∀ {queue thread phase},
      w.queues[k]? = some queue
      → queue.phase? thread = some phase
      → Told history k thread phase) ?_ ?_ ?_
  · intro queue thread phase here found
    obtain ⟨_, _, fresh, _, _, first⟩ := opens
    obtain rfl := Option.some.inj (first.symm.trans here)
    obtain rfl := Queue.phase?_withThreads found
    exact ⟨rfl, rfl⟩
  · intro history w program met happening after before told acts queue thread phase here found
    have transition := Queue.Transition.of_step? acts.made
    by_cases there : happening.request.queue = k
    · subst there
      obtain rfl := Option.some.inj (acts.queue_self.symm.trans here)
      have orderly := (before.known opens acts.found).orderly
      by_cases own : happening.turn.thread = thread
      · subst own
        obtain ⟨old, _, earlier, _⟩ := transition.present
        obtain ⟨hands, confirms⟩ := orderly.passes acts.made earlier found
        rw [before.confirmed_eq opens acts earlier] at confirms
        exact (told acts.found earlier).grows ⟨rfl, rfl⟩ hands confirms
      · rcases transition.others (Ne.symm own) with same | ⟨side, call, parked, woken⟩
        · exact (told acts.found (same.symm.trans found)).kept (fun both => own both.2) rfl rfl
        · obtain rfl := Option.some.inj (woken.symm.trans found)
          exact (told acts.found parked).kept (fun both => own both.2) rfl rfl
    · rw [acts.queue_other (Ne.symm there)] at here
      exact (told here found).kept (fun both => there both.1) rfl rfl
  · exact fun tick told => told

/-- Where a thread is at a queue: in no call, or in the one that its program asks for. -/
theorem Run.told_by (run : Run p start history w) {k : Nat} {values : List α}
    (opens : start.Opens k values) {thread : Nat} {first program : σ}
    (started : start.programs[thread]? = some first)
    (runs : w.programs[thread]? = some program)
    : ∃ queue phase,
        w.queues[k]? = some queue
        ∧ queue.phase? thread = some phase
        ∧ Told history k thread phase
        ∧ (phase = .idle
          ∨ ∃ request deadline,
            p.request? program = some request
            ∧ request.queue = k
            ∧ phase.terms? = some (request.operation, deadline)) := by
  obtain ⟨queue, phase, here, found⟩ := run.place opens started
  refine ⟨queue, phase, here, found, run.told opens here found, ?_⟩
  cases asks : phase.terms? with
  | none => exact Or.inl (Phase.idle_of_terms asks)
  | some terms =>
    obtain ⟨operation, deadline⟩ := terms
    obtain ⟨mine, request, same, wants, there, rfl⟩ := run.faithful opens here found asks
    obtain rfl := Option.some.inj (runs.symm.trans same)
    exact Or.inr ⟨request, deadline, wants, there, rfl⟩

/-- A thread that is in no call at a queue has been handed everything that it has taken there.
-/
theorem Run.told_taken (run : Run p start history w) {k : Nat} {values : List α}
    (opens : start.Opens k values) {thread : Nat} {first program : σ}
    (started : start.programs[thread]? = some first)
    (runs : w.programs[thread]? = some program)
    (elsewhere : ∀ {request}, p.request? program = some request → request.queue ≠ k)
    : takenFrom history k thread = handed history k thread := by
  obtain ⟨queue, phase, _, _, told, idle | ⟨request, _, wants, there, _⟩⟩ :=
    run.told_by opens started runs
  · rw [told.taken, idle]
    exact List.append_nil _
  · exact absurd there (elsewhere wants)

/-- A thread that is in no push at a queue has been told of everything that it has stored
there.
-/
theorem Run.told_stored (run : Run p start history w) {k : Nat} {values : List α}
    (opens : start.Opens k values) {thread : Nat} {first program : σ}
    (started : start.programs[thread]? = some first)
    (runs : w.programs[thread]? = some program)
    (offers
      : ∀ {request},
          p.request? program = some request
          → request.queue = k
          → request.operation.offered? = none)
    : storedIn history k thread = confirmed history k thread := by
  obtain ⟨queue, phase, _, _, told, idle | ⟨request, _, wants, there, terms⟩⟩ :=
    run.told_by opens started runs
  · rw [told.stored, idle]
    exact List.append_nil _
  · rw [told.stored, phase.unreported_of_terms terms, offers wants there]
    split <;> exact List.append_nil _

end World

end Conduit
