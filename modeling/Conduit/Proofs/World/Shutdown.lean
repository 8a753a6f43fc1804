import Conduit.Proofs.World.Effort

/-! Shutting down always comes to an end.
Once all queues are closed, nobody sleeps, somebody can always go on as long as a call is in
progress, and there is only so much to do. What is left to tell is what everybody ends with.
-/

namespace Conduit

variable {σ α : Type}

namespace Queue

/-- At a closed queue a thread can make its next step, or the thread that holds the lock can
give it back.
-/
theorem Shut.moves {q : Queue α} (shut : q.Shut) {thread : Nat} {phase : Phase α}
    (found : q.phase? thread = some phase) (now : Nat) (request : Request α)
    : (∃ holder call outcome reporting progress,
        q.phase? holder = some (.inside call outcome reporting)
        ∧ q.step? now holder .leave = some progress)
      ∨ ∃ action progress,
        q.step? now thread (Action.move request action) = some progress := by
  cases held : q.holder with
  | some holder =>
    obtain ⟨call, outcome, reporting, inside⟩ := shut.holds held
    obtain ⟨progress, leaves⟩ := Transition.of_work now inside
    exact Or.inl ⟨holder, call, outcome, reporting, progress, inside, leaves.step?⟩
  | none =>
    refine Or.inr ?_
    cases phase with
    | idle =>
      have begins : q.Transition now thread (Action.begin.move request) _ := .begins found
      exact ⟨.begin, _, begins.step?⟩
    | arrived | woken | failing =>
      obtain ⟨progress, enters⟩ := Transition.of_seeking held now found rfl
      exact ⟨.enter [], progress, enters.step?⟩
    | inside | stumbling => cases shut.known.orderly.outside held found
    | parked side call => exact absurd found shut.awake

end Queue

/-- Whether a task takes elements from queue `k`. -/
def Task.takesFrom (k : Nat) : Task α → Bool
  | .call queue method _ => queue == k && method.operation.pops
  | .drain queue .. => queue == k
  | .stage s .. => s.input == k
  | .finished _ => false

/-- A task does not begin to take elements from a queue. -/
theorem Task.takesFrom_resume (task : Task α) {k : Nat} (leaves : task.takesFrom k = false)
    (answer : Answer α)
    : (task.resume answer).takesFrom k = false := by
  match task with
  | .call .. | .finished _ => rfl
  | .drain .. =>
    simp only [Task.resume, resumeDrain]
    repeat' split
    all_goals first | rfl | exact leaves
  | .stage _ _ _ step =>
    cases step
    all_goals
      simp only [Task.resume, resumeStage]
      split <;> first | rfl | exact leaves

/-- A task that takes no elements from a queue makes no calls there that would. -/
theorem Task.Proper.pops_of_leaves {task : Task α} {queues : Nat} (proper : task.Proper queues)
    {request : Request α} (asks : task.request? = some request)
    (leaves : task.takesFrom request.queue = false)
    : request.operation.pops = false := by
  match task, proper with
  | .call .., _ =>
    obtain rfl := Option.some.inj asks
    simpa [takesFrom] using leaves
  | .drain .., _ | .stage _ _ _ .take, _ =>
    obtain rfl := Option.some.inj asks
    simp [takesFrom] at leaves
  | .stage _ _ _ (.give value), ⟨_, _, routed⟩ =>
    obtain rfl := Option.some.inj asks
    rw [routed.give_eq]
    rfl
  | .stage _ _ _ .close, ⟨_, _, routed⟩ =>
    obtain rfl := Option.some.inj asks
    rw [routed.close_eq]
    rfl

/-- The elements that a stage is just giving on. -/
def StageStep.pending : StageStep α → Nat
  | .give _ => 1
  | _ => 0

/-- The pushes that a thread has been refused by a queue. -/
def refusals (history : List (Happening α)) (k thread : Nat) : Nat :=
  (replies history k thread).countP fun answer => answer.handedBack?.isSome

section
variable (history : List (Happening α)) {happening : Happening α} {thread : Nat}
  {answer : Answer α}

theorem length_handed_step (own : happening.turn.thread = thread)
    (answered : happening.turn.progress.answer = some answer) (k : Nat)
    : (handed (history ++ [happening]) k thread).length
      = (handed history k thread).length
        + if happening.request.queue = k then answer.handedOut.length else 0 := by
  rw [handed_step, answered]
  by_cases here : happening.request.queue = k <;> simp [here, own, handedBy]

theorem refusals_step (own : happening.turn.thread = thread)
    (answered : happening.turn.progress.answer = some answer) (k : Nat)
    : refusals (history ++ [happening]) k thread
      = refusals history k thread
        + if happening.request.queue = k then answer.handedBack?.isSome.toNat else 0 := by
  rw [refusals, replies_step, answered]
  by_cases here : happening.request.queue = k
  · cases back : answer.handedBack?.isSome <;> simp [here, own, back, refusals]
  · simp [here, refusals]

end

namespace World

-----------------------------------------------------------------------------------------
-- What becomes of a task
-----------------------------------------------------------------------------------------

/-- What a task can report in the end that was at `first` in a world with all queues closed,
the thread having gone through the given history since. A call has ended as calls do at a
closed queue. A consumer has counted what it has been handed, up to the end of the stream or
to the element that its function fails on, and so has a stage; only if the sink fails under
the call that a task had been in the middle of, there is no count.
-/
inductive Ends (w : World σ α) (late : List (Happening α)) (thread : Nat)
    : Task α → Report α → Prop
  | call {queue method failing q answer} (here : w.queues[queue]? = some q)
    (ends : q.EndsAfter thread method.operation answer)
    : Ends w late thread (.call queue method failing) (.answered (method.read answer))
  | drain {queue take failAt count seen total all}
    (counts : total = count + (handed late queue thread).length)
    (sees : all = seen ++ handed late queue thread)
    : Ends w late thread (.drain queue take failAt count seen) (.drained total all)
  | fails {queue take failAt count seen all}
    (fails : failAt = some (count + (handed late queue thread).length))
    (sees : all = seen ++ handed late queue thread)
    : Ends w late thread (.drain queue take failAt count seen) (.consumerFailed all)
  | stage {s count dropped step total refused}
    (counts : total = count + step.pending + (handed late s.input thread).length)
    (drops : refused = dropped + refusals late s.output thread)
    : Ends w late thread (.stage s count dropped step) (.staged total refused)
  | lost {first : Task α} {request q} (asks : first.request? = some request)
    (here : w.queues[request.queue]? = some q)
    (ends : q.EndsAfter thread request.operation .sinkFailed)
    : Ends w late thread first (.answered .sinkFailed)
  | finished {report} : Ends w late thread (.finished report) report

/-- What a task has become: it is where it was, further with what it has been handed, or it
has come to its end.
-/
inductive Becomes (w : World σ α) (late : List (Happening α)) (thread : Nat)
    : Task α → Task α → Prop
  | call {queue method failing}
    : Becomes w late thread (.call queue method failing) (.call queue method failing)
  | drain {queue take failAt count seen total all}
    (counts : total = count + (handed late queue thread).length)
    (sees : all = seen ++ handed late queue thread)
    : Becomes w late thread (.drain queue take failAt count seen)
        (.drain queue take failAt total all)
  | stage {s count dropped step total refused next}
    (counts
      : total + StageStep.pending next
        = count + step.pending + (handed late s.input thread).length)
    (drops : refused = dropped + refusals late s.output thread)
    : Becomes w late thread (.stage s count dropped step) (.stage s total refused next)
  | ended {first report} (ends : Ends w late thread first report)
    : Becomes w late thread first (.finished report)

section
variable {w : World σ α} {late : List (Happening α)} {happening : Happening α} {thread : Nat}
  {first task : Task α}

/-- A task that has had nothing happen to it yet. -/
theorem becomes_self (w : World σ α) (thread : Nat) (first : Task α)
    : Becomes w [] thread first first := by
  match first with
  | .call .. => exact .call
  | .drain .. => exact .drain rfl (List.append_nil _).symm
  | .stage .. => exact .stage rfl rfl
  | .finished _ => exact .ended .finished

/-- A step that tells the thread nothing makes no difference to its task. -/
theorem Becomes.kept (becomes : Becomes w late thread first task)
    (quiet : happening.turn.thread = thread → happening.turn.progress.answer = none)
    : Becomes w (late ++ [happening]) thread first task := by
  have hands k : handed late k thread = handed (late ++ [happening]) k thread :=
    (learns_nothing late happening k thread fun _ => quiet).1.symm
  have refuses k : refusals late k thread = refusals (late ++ [happening]) k thread := by
    rw [refusals, refusals, (learns_nothing late happening k thread fun _ => quiet).2.2]
  cases becomes with
  | call => exact .call
  | drain counts sees =>
    rw [hands] at counts sees
    exact .drain counts sees
  | stage counts drops =>
    rw [hands] at counts
    rw [refuses] at drops
    exact .stage counts drops
  | ended ends =>
    cases ends with
    | call here ends => exact .ended (.call here ends)
    | drain counts sees =>
      rw [hands] at counts sees
      exact .ended (.drain counts sees)
    | fails fails sees =>
      rw [hands] at fails sees
      exact .ended (.fails fails sees)
    | stage counts drops =>
      rw [hands] at counts
      rw [refuses] at drops
      exact .ended (.stage counts drops)
    | lost asks here ends => exact .ended (.lost asks here ends)
    | finished => exact .ended .finished

/-- What a consumer becomes with an element or the end of the stream, or if it is lost. -/
theorem becomes_of_drained {k count total : Nat} {take : Method α} {failAt : Option Nat}
    {seen all : List α} (counts : total = count + (handed late k thread).length)
    (sees : all = seen ++ handed late k thread) (here : happening.request.queue = k)
    (own : happening.turn.thread = thread) {answer : Answer α}
    (answered : happening.turn.progress.answer = some answer)
    (pops
      : (∃ value, answer = .pop (.ok value))
        ∨ answer = .pop (.error .closed)
        ∨ answer = .sinkFailed
          ∧ Ends w (late ++ [happening]) thread (.drain k take failAt count seen)
              (.answered .sinkFailed))
    : Becomes w (late ++ [happening]) thread (.drain k take failAt count seen)
        (.resumeDrain k take failAt total all answer) := by
  have learnt := (learns late here own answered).1
  have counted := congrArg List.length learnt
  rw [List.length_append] at counted
  rcases pops with ⟨value, rfl⟩ | rfl | ⟨rfl, lost⟩
  · have more : total + 1 = count + (handed (late ++ [happening]) k thread).length := by
      rw [counted, counts]
      rfl
    have longer : all ++ [value] = seen ++ handed (late ++ [happening]) k thread := by
      rw [learnt, sees, List.append_assoc]
      rfl
    simp only [Task.resumeDrain]
    split
    · rename_i fails
      exact .ended (.fails (fails.trans (congrArg some more)) longer)
    · exact .drain more longer
  · simp only [Answer.handedOut, List.append_nil] at learnt
    rw [← learnt] at counts sees
    exact .ended (.drain counts sees)
  · exact .ended lost

/-- What a stage becomes with what a closed queue can answer to its next step. -/
theorem becomes_of_staged {s : Stage α} {count dropped total refused : Nat}
    {step next : StageStep α} (routed : s.Routed)
    (counts
      : total + next.pending = count + step.pending + (handed late s.input thread).length)
    (drops : refused = dropped + refusals late s.output thread)
    (asks : Task.request? (.stage s total refused next) = some happening.request)
    (own : happening.turn.thread = thread) {answer : Answer α}
    (answered : happening.turn.progress.answer = some answer)
    (lost
      : answer = .sinkFailed
        → Ends w (late ++ [happening]) thread (.stage s count dropped step)
            (.answered .sinkFailed))
    (pops
      : happening.request.operation = .waitPop .infinite
        → (∃ value, answer = .pop (.ok value))
          ∨ answer = .pop (.error .closed)
          ∨ answer = .sinkFailed)
    (pushes
      : ∀ value,
          happening.request.operation = .waitPush value .infinite
          → answer = .push (.ok ())
            ∨ answer = .push (.error (.closed value))
            ∨ answer = .sinkFailed)
    (closes : happening.request.operation = .close → answer = .done ∨ answer = .sinkFailed)
    : Becomes w (late ++ [happening]) thread (.stage s count dropped step)
        (Task.resume (.stage s total refused next) answer) := by
  have hands := length_handed_step late own answered s.input
  have refuses := refusals_step late own answered s.output
  cases next with
  | take =>
    have request := (Option.some.inj asks).symm
    simp only [routed.take_eq] at request
    rw [request] at pops
    simp only [Task.resume, routed.take_eq, id]
    -- An element is counted only when it has been given on.
    rcases pops rfl with ⟨value, rfl⟩ | rfl | rfl
    case inr.inr => exact .ended (lost rfl)
    all_goals
      refine .stage ?_ ?_
      all_goals simp_all [StageStep.pending, Answer.handedOut, Answer.handedBack?]
    omega
  | give value =>
    have request := (Option.some.inj asks).symm
    simp only [routed.give_eq] at request
    rw [request] at pushes
    simp only [Task.resume, routed.give_eq]
    rcases pushes value rfl with rfl | rfl | rfl
    case inr.inr => exact .ended (lost rfl)
    all_goals
      refine .stage ?_ ?_
      all_goals simp_all [StageStep.pending, Answer.handedOut, Answer.handedBack?]
    omega
  | close =>
    have request := (Option.some.inj asks).symm
    simp only [routed.close_eq] at request
    rw [request] at closes
    simp only [Task.resume, routed.close_eq, id]
    rcases closes rfl with rfl | rfl
    · refine .ended (.stage ?_ ?_)
      all_goals simp_all [StageStep.pending, Answer.handedOut, Answer.handedBack?]
    · exact .ended (lost rfl)

end

-----------------------------------------------------------------------------------------
-- All that can be done
-----------------------------------------------------------------------------------------

/-- A world after some run, at a moment when all its queues are closed and its threads do
nothing but tasks.
-/
structure ShuttingDown (p : Program σ α) (see : σ → Option (Task α)) (start : World σ α)
    (history : List (Happening α)) (w : World σ α)
    : Prop where
  run : Run p start history w
  opens : ∀ {k}, k < start.queues.length → ∃ values, start.Opens k values
  performs : p.Performs see
  closing : w.Closing see

section
variable {p : Program σ α} {start w last : World σ α} {history late : List (Happening α)}

theorem Run.lengths (run : Run p start history w)
    : w.queues.length = start.queues.length ∧ w.programs.length = start.programs.length := by
  refine run.induct (P := fun _ w =>
    w.queues.length = start.queues.length ∧ w.programs.length = start.programs.length)
    ⟨rfl, rfl⟩ ?_ fun _ => id
  intro history w program queue happening after _ known acts
  obtain ⟨queues, programs⟩ := acts.lengths
  exact ⟨queues.trans known.1, programs.trans known.2⟩

namespace ShuttingDown

variable {see : σ → Option (Task α)}

theorem opensAt (down : ShuttingDown p see start history w) {k : Nat} {q : Queue α}
    (here : w.queues[k]? = some q)
    : ∃ values, start.Opens k values := by
  apply down.opens
  rw [← down.run.lengths.1]
  exact (List.getElem?_eq_some_iff.mp here).1

/-- A thread is in a call at a queue only if its program makes it. -/
theorem faithful (down : ShuttingDown p see start history w) {k thread : Nat} {q : Queue α}
    {phase : Phase α} {operation : Operation α} {deadline : Option Nat}
    (here : w.queues[k]? = some q) (found : q.phase? thread = some phase)
    (terms : phase.terms? = some (operation, deadline))
    : ∃ program request,
        w.programs[thread]? = some program
        ∧ p.request? program = some request
        ∧ request.queue = k
        ∧ request.operation = operation := by
  obtain ⟨values, opens⟩ := down.opensAt here
  exact down.run.faithful opens here found terms

/-- Whoever acts is in no call elsewhere. -/
theorem nowhere_else (down : ShuttingDown p see start history w) {program : σ}
    {queue : Queue α} {happening : Happening α} {after : World σ α}
    (acts : w.Acts p program queue happening after)
    : w.OnlyAt happening.request.queue happening.turn.thread := by
  intro k q phase different here found
  cases terms : phase.terms? with
  | none => exact Phase.idle_of_terms terms
  | some =>
    obtain ⟨same, request, runs, asks, there, _⟩ := down.faithful here found terms
    obtain rfl := Option.some.inj (acts.runs.symm.trans runs)
    obtain rfl := Option.some.inj (acts.asks.symm.trans asks)
    exact absurd there.symm different

/-- All queues stay closed, and what is left to do becomes less with every step; by induction
on the run.
-/
theorem spends (down : ShuttingDown p see start history w) (later : Run p w late last)
    : last.Closing see ∧ late.length + last.effort p see ≤ w.effort p see := by
  refine later.induct (P := fun late last =>
    last.Closing see ∧ late.length + last.effort p see ≤ w.effort p see) ?_ ?_ ?_
  · exact ⟨down.closing, by simp⟩
  · intro late met program queue happening after before known acts
    obtain ⟨closing, spent⟩ := known
    have still : ShuttingDown p see start (history ++ late) met :=
      ⟨down.run.append before, down.opens, down.performs, closing⟩
    have less := closing.less down.performs acts (still.nowhere_else acts)
    refine ⟨closing.step down.performs acts, ?_⟩
    rw [List.length_append, List.length_singleton]
    omega
  · intro late met tick known
    obtain ⟨⟨shut, performs⟩, spent⟩ := known
    exact ⟨⟨shut, performs⟩, spent⟩

/-- A world that is being shut down stays so. -/
theorem later (down : ShuttingDown p see start history w) (later : Run p w late last)
    : ShuttingDown p see start (history ++ late) last :=
  ⟨down.run.append later, down.opens, down.performs, (down.spends later).1⟩

/-- As long as somebody has a call to make, somebody can go on: that thread, or the one that
holds the lock that it needs.
-/
theorem goesOn (down : ShuttingDown p see start history w) {thread : Nat} {program : σ}
    (runs : w.programs[thread]? = some program) {request : Request α}
    (asks : p.request? program = some request)
    : ∃ mover action after, w.step? p mover action = some after := by
  obtain ⟨task, seen, proper⟩ := down.closing.performs runs
  have wants := (down.performs.asks seen).symm.trans asks
  have within := proper.queue_lt wants
  obtain ⟨values, opens⟩ := down.opensAt (List.getElem?_eq_getElem within)
  have started : ∃ first, start.programs[thread]? = some first := by
    have there := (List.getElem?_eq_some_iff.mp runs).1
    rw [down.run.lengths.2] at there
    exact ⟨_, List.getElem?_eq_getElem there⟩
  obtain ⟨first, started⟩ := started
  obtain ⟨q, phase, here, found⟩ := down.run.place opens started
  rcases (down.closing.shut here).moves found w.now request with
    ⟨holder, call, outcome, reporting, progress, inside, made⟩ | ⟨action, progress, made⟩
  · obtain ⟨other, held, runs, asks, there, _⟩ := down.faithful here inside rfl
    rw [← there] at here
    obtain ⟨after, step, _⟩ := step?_of_queue .leave runs asks here made
    exact ⟨holder, .leave, after, step⟩
  · obtain ⟨after, step, _⟩ := step?_of_queue action runs asks here made
    exact ⟨thread, action, after, step⟩

-----------------------------------------------------------------------------------------
-- What the tasks end with
-----------------------------------------------------------------------------------------

/-- What a call ends with after all queues have been closed. -/
theorem endsAfter (down : ShuttingDown p see start history w) {met after : World σ α}
    (before : Run p w late met) {program : σ} {queue : Queue α} {happening : Happening α}
    (acts : met.Acts p program queue happening after) {answer : Answer α}
    (answered : happening.turn.progress.answer = some answer)
    : ∃ q,
        w.queues[happening.request.queue]? = some q
        ∧ q.EndsAfter happening.turn.thread happening.request.operation answer := by
  have within := (List.getElem?_eq_some_iff.mp acts.found).1
  rw [before.lengths.1] at within
  have here := List.getElem?_eq_getElem within
  obtain ⟨last, there, inner⟩ := before.queue here
  obtain rfl := Option.some.inj (acts.found.symm.trans there)
  obtain ⟨phase, operation, deadline, found, terms, ends⟩ :=
    inner.endsAfter (down.closing.shut here) (.of_step? acts.made) answered
  obtain ⟨values, opens⟩ := (down.later before).opensAt acts.found
  obtain ⟨rfl, _⟩ := (down.later before).run.terms opens acts found terms
  exact ⟨_, here, ends⟩

/-- Where the sink fails under a call, the task was in the middle of it when the queues had all
been closed.
-/
theorem lost (down : ShuttingDown p see start history w) {met after : World σ α}
    (before : Run p w late met) {program : σ} {queue : Queue α} {happening : Happening α}
    (acts : met.Acts p program queue happening after)
    (answered : happening.turn.progress.answer = some .sinkFailed) {first : Task α}
    (starts : w.task? see happening.turn.thread = some first) (seen : List (Happening α))
    : Ends w seen happening.turn.thread first (.answered .sinkFailed) := by
  obtain ⟨q, here, ends⟩ := down.endsAfter before acts answered
  obtain ⟨phase, deadline, found, terms⟩ := ends.underway
  obtain ⟨mine, request, runs, asks, there, same⟩ := down.faithful here found terms
  obtain ⟨_, alike, sees⟩ := Option.bind_eq_some_iff.mp starts
  obtain rfl := Option.some.inj (runs.symm.trans alike)
  rw [← there] at here
  rw [← same] at ends
  exact .lost ((down.performs.asks sees).symm.trans asks) here ends

/-- What has become of a task since all queues have been closed. -/
theorem becomes (down : ShuttingDown p see start history w) (later : Run p w late last)
    {thread : Nat} {first : Task α} (starts : w.task? see thread = some first)
    : ∃ task, last.task? see thread = some task ∧ Becomes w late thread first task := by
  refine later.performs down.performs starts (P := fun late _ => Becomes w late thread first)
    (becomes_self w thread first) ?_ ?_ fun _ => id
  · exact fun _ becomes _ _ quiet => becomes.kept quiet
  · intro late met program queue happening after task answer before becomes asks performed acts
      own answered
    have still := down.later before
    obtain ⟨_, same, proper⟩ := still.closing.performs acts.runs
    obtain rfl := Option.some.inj (performed.symm.trans same)
    have ends := down.endsAfter before acts answered
    rw [own] at ends
    obtain ⟨values, opens⟩ := still.opensAt acts.found
    subst own
    have lost (fails : answer = .sinkFailed)
        : Ends w (late ++ [happening]) happening.turn.thread first (.answered .sinkFailed) :=
      down.lost before acts (fails ▸ answered) starts _
    have pops := fun asks => still.run.waitPop_cases opens acts answered asks
    have pushes (value : α) (asks : happening.request.operation = .waitPush value .infinite) :=
      still.run.waitPush_cases opens acts answered asks
    cases becomes with
    | call =>
      rw [← Option.some.inj asks] at ends
      obtain ⟨q, there, ends⟩ := ends
      exact .ended (.call there ends)
    | drain counts sees =>
      obtain ⟨_, route, rfl⟩ := proper
      have request := Option.some.inj asks
      simp only [route.front_waitPop] at request
      rw [← request] at pops
      simp only [Task.resume, route.front_waitPop, id]
      exact becomes_of_drained counts sees (congrArg Request.queue request).symm rfl answered
        ((pops rfl).imp_right (Or.imp_right fun fails =>
          ⟨fails.1, by simpa only [route.front_waitPop] using lost fails.1⟩))
    | stage counts drops =>
      exact becomes_of_staged proper.2.2 counts drops asks rfl answered lost
        (fun asks => (pops asks).imp_right (Or.imp_right And.left))
        (fun value asks => (pushes value asks).imp_right (Or.imp_right And.left))
        (still.run.close_cases opens acts answered)
    | ended => cases asks

/-- When nobody can make a step any more, every task has come to its end. -/
theorem ends (down : ShuttingDown p see start history w) (later : Run p w late last)
    (stuck : ∀ thread action, last.step? p thread action = none) {thread : Nat}
    {first : Task α} (starts : w.task? see thread = some first)
    : ∃ report,
        last.task? see thread = some (.finished report)
        ∧ Ends w late thread first report
        ∧ ∀ {k : Nat} {q : Queue α} {phase : Phase α},
          last.queues[k]? = some q → q.phase? thread = some phase → phase = .idle := by
  obtain ⟨task, runs, becomes⟩ := down.becomes later starts
  have silent : task.request? = none := by
    obtain ⟨program, here, seen⟩ := Option.bind_eq_some_iff.mp runs
    cases asks : task.request? with
    | none => rfl
    | some request =>
      obtain ⟨mover, action, after, made⟩ :=
        (down.later later).goesOn here ((down.performs.asks seen).trans asks)
      cases (stuck mover action).symm.trans made
  cases becomes with
  | call | drain => cases silent
  | @stage _ _ _ _ _ _ next => cases next <;> cases silent
  | ended ends =>
    refine ⟨_, runs, ends, fun {k q phase} there found => ?_⟩
    cases terms : phase.terms? with
    | none => exact Phase.idle_of_terms terms
    | some =>
      obtain ⟨program, request, here, asks, _⟩ :=
        (down.later later).faithful there found terms
      obtain ⟨same, runs, seen⟩ := Option.bind_eq_some_iff.mp runs
      obtain rfl := Option.some.inj (here.symm.trans runs)
      cases asks.symm.trans (down.performs.asks seen)

/-- The elements of a queue that nobody takes any from stay as they are, by induction on the
run.
-/
theorem keeps (down : ShuttingDown p see start history w) (later : Run p w late last) {k : Nat}
    {q : Queue α} (here : w.queues[k]? = some q)
    (leaves : ∀ {thread task}, w.task? see thread = some task → task.takesFrom k = false)
    : ∃ final,
        last.queues[k]? = some final
        ∧ final.state.ring.toList = q.state.ring.toList := by
  have kept := later.induct (P := fun _ last =>
    (∀ {thread task}, last.task? see thread = some task → task.takesFrom k = false)
    ∧ ∃ final, last.queues[k]? = some final
      ∧ final.state.ring.toList = q.state.ring.toList) ?_ ?_ fun _ => id
  · exact kept.2
  · exact ⟨leaves, q, here, rfl⟩
  · intro late met program queue happening after before known acts
    obtain ⟨leaves, final, there, same⟩ := known
    have still := down.later before
    refine ⟨fun {thread task} runs => ?_, ?_⟩
    · obtain ⟨program, runs, sees⟩ := Option.bind_eq_some_iff.mp runs
      obtain ⟨old, _, earlier, _, seen, moved⟩ :=
        still.closing.resumes down.performs acts runs
      obtain rfl := Option.some.inj (sees.symm.trans seen)
      rcases moved with rfl | ⟨answer, rfl⟩
      · exact leaves earlier
      · exact old.takesFrom_resume (leaves earlier) answer
    · by_cases meets : happening.request.queue = k
      · subst meets
        obtain rfl := Option.some.inj (acts.found.symm.trans there)
        refine ⟨_, acts.queue_self, Eq.trans ?_ same⟩
        obtain ⟨task, seen, proper⟩ := still.closing.performs acts.runs
        have runs := Option.bind_eq_some_iff.mpr ⟨_, acts.runs, seen⟩
        have asks := (down.performs.asks seen).symm.trans acts.asks
        refine (still.closing.shut there).keeps acts.made fun found terms => ?_
        obtain ⟨values, opens⟩ := still.opensAt there
        obtain ⟨rfl, _⟩ := still.run.terms opens acts found terms
        exact proper.pops_of_leaves asks (leaves runs)
      · exact ⟨final, (acts.queue_other (Ne.symm meets)).trans there, same⟩

end ShuttingDown

-----------------------------------------------------------------------------------------
-- Completion
-----------------------------------------------------------------------------------------

/-- What it means that a shutdown completes, from a world with all queues closed on. Whatever
has been done since, all queues are closed and nobody sleeps at one, so that nobody can be
woken without a reason, and what can be done at all has a bound that was known from the
beginning. When nobody can do anything more, every task has come back with its report and left
all queues. A call that had been asleep until its queue was closed can only report what its
operation ends with at a closed queue with the elements left. And a queue that nobody takes
elements from has kept them.
-/
structure Completes (p : Program σ α) (see : σ → Option (Task α)) (w : World σ α)
    (late : List (Happening α)) (last : World σ α)
    : Prop where
  awake
    : ∀ {k : Nat} {q : Queue α},
        last.queues[k]? = some q
        → q.state.closed = true
          ∧ ∀ {thread side call}, q.phase? thread ≠ some (.parked side call)
  finite : late.length + last.effort p see ≤ w.effort p see
  ends
    : (∀ thread action, last.step? p thread action = none)
      → ∀ {thread first},
        w.task? see thread = some first
        → ∃ report,
          last.task? see thread = some (.finished report)
          ∧ Ends w late thread first report
          ∧ ∀ {k : Nat} {q : Queue α} {phase : Phase α},
            last.queues[k]? = some q → q.phase? thread = some phase → phase = .idle
  blocked
    : ∀ {thread k : Nat} {method : Method α} {failing : Bool} {q : Queue α} {side : Side}
        {call : Call α} {report : Report α},
        w.task? see thread = some (.call k method failing)
        → w.queues[k]? = some q
        → q.phase? thread = some (.woken side call)
        → last.task? see thread = some (.finished report)
        → ∃ answer,
          report = .answered (method.read answer)
          ∧ method.operation.EndsWith q.state.ring.toList answer
  keeps
    : ∀ {k : Nat} {q : Queue α},
        w.queues[k]? = some q
        → (∀ {thread task}, w.task? see thread = some task → task.takesFrom k = false)
        → ∃ final,
          last.queues[k]? = some final ∧ final.state.ring.toList = q.state.ring.toList

/-- Shutting down completes: once all queues are closed and all threads do nothing but tasks,
these come to their end, in whatever order the threads go on and whatever queues the stages
lead from and to.
-/
theorem shutdown_completes {see : σ → Option (Task α)} (performs : p.Performs see)
    (opens : ∀ {k}, k < start.queues.length → ∃ values, start.Opens k values)
    (run : Run p start history w) (closed : ∀ q ∈ w.queues, q.state.closed = true)
    (tasks
      : ∀ program ∈ w.programs,
          ∃ task, see program = some task ∧ task.Proper w.queues.length)
    (later : Run p w late last)
    : Completes p see w late last := by
  have closing : w.Closing see := by
    refine ⟨?_, fun runs => tasks _ (List.mem_of_getElem? runs)⟩
    intro k q here
    have within := (List.getElem?_eq_some_iff.mp here).1
    rw [run.lengths.1] at within
    obtain ⟨values, opened⟩ := opens within
    obtain ⟨_, _, _, _, _, same, created, there, inner⟩ := run.opened opened
    obtain rfl := Option.some.inj (here.symm.trans there)
    exact inner.shut created (closed _ (List.mem_of_getElem? here))
  have down : ShuttingDown p see start history w := ⟨run, opens, performs, closing⟩
  refine ⟨?awake, ?finite, ?ends, ?blocked, ?keeps⟩
  case awake =>
    intro k q here
    have shut := (down.later later).closing.shut here
    exact ⟨shut.closed, shut.awake⟩
  case finite => exact (down.spends later).2
  case ends => exact down.ends later
  case blocked =>
    intro thread k method failing q side call report starts here found through
    obtain ⟨task, runs, becomes⟩ := down.becomes later starts
    obtain rfl := Option.some.inj (runs.symm.trans through)
    cases becomes with
    | ended ends =>
      cases ends with
      | call there ends =>
        obtain rfl := Option.some.inj (here.symm.trans there)
        exact ⟨_, rfl, ends.of_woken found⟩
      | lost asks there ends =>
        obtain rfl := Option.some.inj asks
        obtain rfl := Option.some.inj (here.symm.trans there)
        exact absurd (ends.of_woken found) (Queue.not_endsWith_sinkFailed _ _)
  case keeps => exact down.keeps later

end

/-- A stage that adds one to every element. -/
def countsUp (input output : Nat) : Stage Nat :=
  { input, output
    take := Route.own.front.waitPop
    give := Route.own.back.push
    close := Route.own.back.close
    transform := (· + 1) }

/-- Two stages that lead from one queue to the other and back, a producer that finds the first
queue full, and two threads that close the queues.
-/
def circle : World (Task Nat) Nat :=
  { queues :=
      [(Queue.ofRing (.ofCapacity 1) ((Ring.empty 1).pushed 7)).withThreads .ofWords 5,
        (Queue.ofRing (.ofCapacity 1) (Ring.empty 1)).withThreads .ofWords 5]
    programs :=
      [.ofStage (countsUp 0 1), .ofStage (countsUp 1 0),
        .call 0 (Route.own.back.waitPush 9) false,
        .call 0 Route.own.back.close false,
        .call 1 Route.own.back.close false] }

/-- The producer and the second stage fall asleep, then both queues are closed. -/
def sleepersClosed : List (Nat × Action) := calls [2, 1, 3, 4]

/-- The first stage takes the element and cannot give it on, and all others are told of the
end.
-/
def runsDry : List (Nat × Action) :=
  calls [0, 0, 0, 0] ++ [(1, .enter []), (1, .leave)] ++ calls [1]
  ++ [(2, .enter []), (2, .leave)]

/-- The first stage has counted its one element as lost, and the producer has its own back;
there was nothing more to do.
-/
theorem shutdown_completes_circle
    : let closed := (circle.play Task.program sleepersClosed).2
      let (late, last) := closed.play Task.program runsDry
      last.task? some 0 = some (.finished (.staged 1 1))
      ∧ last.task? some 1 = some (.finished (.staged 0 0))
      ∧ last.task? some 2 = some (.finished (.answered (.push (.error (.closed 9)))))
      ∧ (∀ thread action, last.step? Task.program thread action = none)
      ∧ late.length = closed.effort Task.program some
      ∧ Completes Task.program some closed late last := by
  have opens : ∀ {k}, k < circle.queues.length → ∃ values, circle.Opens k values := by
    intro k within
    match k, within with
    | 0, _ => exact ⟨[7], 8, .ofCapacity 1, _, _, rfl, rfl⟩
    | 1, _ => exact ⟨[], 8, .ofCapacity 1, _, _, rfl, rfl⟩
  have proper (input output) (within : input < 2 ∧ output < 2)
      : Task.Proper 2 (.ofStage (countsUp input output)) :=
    ⟨within.1, within.2, ⟨.own, rfl⟩, ⟨.own, rfl⟩, ⟨.own, rfl⟩⟩
  have tasks
      : ∀ program ∈ (circle.play Task.program sleepersClosed).2.programs,
          ∃ task, some program = some task ∧ task.Proper 2 := by
    intro program member
    refine ⟨program, rfl, ?_⟩
    have programs
        : (circle.play Task.program sleepersClosed).2.programs
          = [.ofStage (countsUp 0 1), .ofStage (countsUp 1 0),
            .call 0 (Route.own.back.waitPush 9) false,
            .finished (.answered .done), .finished (.answered .done)] := rfl
    rw [programs] at member
    simp only [List.mem_cons, List.not_mem_nil, or_false] at member
    rcases member with rfl | rfl | rfl | rfl | rfl
    · exact proper 0 1 (by decide)
    · exact proper 1 0 (by decide)
    · exact Nat.zero_lt_two
    · trivial
    · trivial
  have completes :=
    shutdown_completes Task.performs opens (.of_play Task.program circle sleepersClosed)
      (by decide +kernel) tasks (.of_play Task.program _ runsDry)
  refine ⟨rfl, rfl, rfl, fun thread action => ?_, rfl, completes⟩
  match thread with
  | 0 | 1 | 2 | 3 | 4 | _ + 5 => rfl

end World

end Conduit
