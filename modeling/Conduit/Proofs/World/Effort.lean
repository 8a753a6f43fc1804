import Mathlib.Algebra.BigOperators.Group.Finset.Basic
import Conduit.Proofs.Queue.Shutdown
import Conduit.Proofs.World.Tasks

/-! How much is left to do when all queues have been closed.
A closed queue never gets another element, and every element that is taken out of one keeps
a task busy for at most two more calls. So the elements left, the calls that the tasks have
ahead of them and the steps that they have made of these together become less with every
step, whatever way the stages hand elements on.
-/

namespace Conduit

variable {σ α : Type}

/-- Tasks that use only queues that there are, and their ends as tasks do. -/
def Task.Proper (queues : Nat) : Task α → Prop
  | .call queue _ _ => queue < queues
  | .drain queue take .. => queue < queues ∧ ∃ route : Route, take = route.front.waitPop
  | .stage s .. => s.input < queues ∧ s.output < queues ∧ s.Routed
  | .finished _ => True

/-- The calls that a task still has to make, if it is handed no more elements. -/
def Task.ahead : Task α → Nat
  | .call .. | .drain .. | .stage _ _ _ .close => 1
  | .stage _ _ _ .take => 2
  | .stage _ _ _ (.give _) => 3
  | .finished _ => 0

namespace Task

variable {queues : Nat} {task : Task α}

theorem ahead_pos {request : Request α} (asks : task.request? = some request)
    : 0 < task.ahead := by
  match task, asks with
  | .call .., _ | .drain .., _ => exact Nat.one_pos
  | .stage _ _ _ step, _ => cases step <;> simp [ahead]

theorem Proper.queue_lt (proper : task.Proper queues) {request : Request α}
    (asks : task.request? = some request)
    : request.queue < queues := by
  match task, proper with
  | .call .., within =>
    obtain rfl := Option.some.inj asks
    exact within
  | .drain .., ⟨within, _⟩ =>
    obtain rfl := Option.some.inj asks
    exact within
  | .stage _ _ _ .take, ⟨within, _⟩ =>
    obtain rfl := Option.some.inj asks
    exact within
  | .stage _ _ _ (.give _), ⟨_, within, _⟩ | .stage _ _ _ .close, ⟨_, within, _⟩ =>
    obtain rfl := Option.some.inj asks
    exact within

theorem Proper.resume (proper : task.Proper queues) (answer : Answer α)
    : (task.resume answer).Proper queues := by
  match task, proper with
  | .call .., _ => trivial
  | .drain .., proper =>
    simp only [Task.resume, resumeDrain]
    repeat' split
    all_goals trivial
  | .stage _ _ _ step, proper =>
    cases step
    all_goals
      simp only [Task.resume, resumeStage]
      split <;> trivial
  | .finished _, _ => trivial

/-- Every answer takes a call off, and an element brings at most two. -/
theorem Proper.ahead_resume (proper : task.Proper queues) {request : Request α}
    (asks : task.request? = some request) (answer : Answer α)
    : (task.resume answer).ahead + 1 ≤ task.ahead + 2 * answer.handedOut.length := by
  match task, proper with
  | .call .., _ => simp [Task.resume, ahead]
  | .drain .., ⟨_, route, take⟩ =>
    simp only [Task.resume, take, route.front_waitPop, id, resumeDrain]
    split
    · split <;> simp [ahead, Answer.handedOut]
    all_goals simp [ahead]
  | .stage _ _ _ .take, ⟨_, _, routed⟩ =>
    simp only [Task.resume, routed.take_eq, id, resumeStage]
    split <;> simp_all [ahead, Answer.handedOut]
  | .stage _ _ _ (.give _), _ | .stage _ _ _ .close, _ =>
    simp only [Task.resume, resumeStage]
    split <;> simp_all [ahead] <;> omega
  | .finished _, _ => cases asks

end Task

namespace World

/-- What a thread still has to do: its calls in steps, less those that it has made of the call
that it is in, and what the elements that it has taken may bring.
-/
def toil (p : Program σ α) (see : σ → Option (Task α)) (w : World σ α) (thread : Nat) : Nat :=
  3 * (w.task? see thread).elim 0 Task.ahead
  + 6 * (w.phase? p thread).elim 0 (fun phase => phase.carried.length)
  - (w.phase? p thread).elim 0 Phase.spent

/-- How many elements queue `k` holds. -/
def buffered (w : World σ α) (k : Nat) : Nat :=
  (w.queues[k]?).elim 0 fun q => q.state.ring.length

/-- What all threads still have to do, and what the elements left may bring. -/
def effort (p : Program σ α) (see : σ → Option (Task α)) (w : World σ α) : Nat :=
  6 * (∑ k ∈ Finset.range w.queues.length, w.buffered k)
  + ∑ thread ∈ Finset.range w.programs.length, w.toil p see thread

/-- A sum changes as much as the one summand that does. -/
theorem sum_range_change {f g : Nat → Nat} {n i : Nat} (within : i < n)
    (others : ∀ j, j ≠ i → g j = f j)
    : ∑ j ∈ Finset.range n, g j + f i = ∑ j ∈ Finset.range n, f j + g i := by
  have member := Finset.mem_range.mpr within
  have rest : ∑ j ∈ (Finset.range n).erase i, g j = ∑ j ∈ (Finset.range n).erase i, f j := by
    apply Finset.sum_congr rfl
    intro j remains
    exact others j (Finset.ne_of_mem_erase remains)
  rw [← Finset.sum_erase_add _ g member, ← Finset.sum_erase_add _ f member, rest]
  omega

/-- A thread that is in no call at any queue but `k`. -/
def OnlyAt (w : World σ α) (k thread : Nat) : Prop :=
  ∀ {other : Nat} {q : Queue α} {phase : Phase α},
    other ≠ k → w.queues[other]? = some q → q.phase? thread = some phase → phase = .idle

/-- All queues are closed, and all threads do nothing but proper tasks. -/
structure Closing (see : σ → Option (Task α)) (w : World σ α) : Prop where
  shut : ∀ {k : Nat} {q : Queue α}, w.queues[k]? = some q → q.Shut
  performs
    : ∀ {thread : Nat} {program : σ},
        w.programs[thread]? = some program
        → ∃ task, see program = some task ∧ task.Proper w.queues.length

section
variable {p : Program σ α} {see : σ → Option (Task α)} {w after : World σ α} {program : σ}
  {queue : Queue α} {happening : Happening α}

theorem Acts.lengths (acts : w.Acts p program queue happening after)
    : after.queues.length = w.queues.length ∧ after.programs.length = w.programs.length := by
  rw [acts.queues, acts.programs, List.length_set]
  split
  · exact ⟨rfl, List.length_set ..⟩
  · exact ⟨rfl, rfl⟩

/-- Where a thread is at the queue that it calls. -/
theorem phase?_of_request {thread : Nat} {request : Request α}
    (runs : w.programs[thread]? = some program) (asks : p.request? program = some request)
    (found : w.queues[request.queue]? = some queue)
    : w.phase? p thread = queue.phase? thread := by
  simp [World.phase?, World.request?, runs, asks, found]

/-- A step at a closed queue leaves every other thread where it is. -/
theorem Acts.toil_other (acts : w.Acts p program queue happening after) (shut : queue.Shut)
    {thread : Nat} (different : thread ≠ happening.turn.thread)
    : after.toil p see thread = w.toil p see thread := by
  have same := acts.program_other different
  have task : after.task? see thread = w.task? see thread := by rw [task?, same, task?]
  have phase : after.phase? p thread = w.phase? p thread := by
    simp only [World.phase?, World.request?, same]
    cases (w.programs[thread]?).bind p.request? with
    | none => rfl
    | some request =>
      by_cases here : request.queue = happening.request.queue
      · have stays := shut.others (.of_step? acts.made) different
        simp [here, acts.queue_self, acts.found, stays]
      · simp [acts.queue_other here]
  rw [toil, toil, task, phase]

/-- A thread whose call has ended is in no call at any queue, if it was in no other one. -/
theorem Acts.idle_of_answered (acts : w.Acts p program queue happening after)
    {answer : Answer α} (answered : happening.turn.progress.answer = some answer)
    (idle : happening.turn.progress.queue.phase? happening.turn.thread = some .idle)
    (alone : w.OnlyAt happening.request.queue happening.turn.thread)
    {phase : Phase α} (found : after.phase? p happening.turn.thread = some phase)
    : phase = .idle := by
  simp only [World.phase?, World.request?, acts.program_resumes answered, Option.bind_eq_bind,
    Option.bind_some, Option.bind_eq_some_iff] at found
  obtain ⟨request, asks, q, there, found⟩ := found
  by_cases here : request.queue = happening.request.queue
  · rw [here] at there
    obtain rfl := Option.some.inj (acts.queue_self.symm.trans there)
    exact Option.some.inj (found.symm.trans idle)
  · rw [acts.queue_other here] at there
    exact alone here there found

/-- Whoever makes a step has less to do after it, with the elements left in the queue; by
cases on whether the step ends its call.
-/
theorem Closing.toil_self (closing : w.Closing see) (performs : p.Performs see)
    (acts : w.Acts p program queue happening after)
    (alone : w.OnlyAt happening.request.queue happening.turn.thread)
    : 6 * happening.turn.progress.queue.state.ring.length
          + after.toil p see happening.turn.thread + 1
        ≤ 6 * queue.state.ring.length + w.toil p see happening.turn.thread := by
  have shut := closing.shut acts.found
  obtain ⟨task, seen, proper⟩ := closing.performs acts.runs
  have asks := (performs.asks seen).symm.trans acts.asks
  have ahead := task.ahead_pos asks
  have transition := Queue.Transition.of_step? acts.made
  obtain ⟨old, _, found, _⟩ := transition.present
  obtain ⟨new, now, _, moved⟩ := shut.step transition found
  have balance := shut.balance acts.made found now
  have spent := old.spent_le
  have here : w.phase? p happening.turn.thread = some old :=
    (phase?_of_request acts.runs acts.asks acts.found).trans found
  have before
      : w.toil p see happening.turn.thread
        = 3 * task.ahead + 6 * old.carried.length - old.spent := by
    simp [toil, task?, acts.runs, seen, here]
  rcases moved with ⟨silent, further⟩ | ⟨⟨answer, answered⟩, rfl⟩
  · have runs : after.programs[happening.turn.thread]? = some program := by
      rw [acts.program_waits silent]
      exact acts.runs
    have there : after.phase? p happening.turn.thread = some new :=
      (phase?_of_request runs acts.asks acts.queue_self).trans now
    have later
        : after.toil p see happening.turn.thread
          = 3 * task.ahead + 6 * new.carried.length - new.spent := by
      simp [toil, task?, runs, seen, there]
    have less := new.spent_le
    rw [silent] at balance
    simp only [handedBy, Option.elim_none, List.length_nil] at balance
    omega
  · have goesOn : after.task? see happening.turn.thread = some (task.resume answer) := by
      rw [task?, acts.program_resumes answered]
      exact performs.resumes seen answer
    have later : after.toil p see happening.turn.thread = 3 * (task.resume answer).ahead := by
      cases there : after.phase? p happening.turn.thread with
      | none => simp [toil, goesOn, there]
      | some phase =>
        obtain rfl := acts.idle_of_answered answered now alone there
        simp [toil, goesOn, there, Phase.carried, Phase.spent]
    have fewer := proper.ahead_resume asks answer
    have nothing : (Phase.idle : Phase α).carried.length = 0 := rfl
    rw [answered, nothing] at balance
    simp only [handedBy, Option.elim_some] at balance
    omega

/-- Every step leaves less to do. -/
theorem Closing.less (closing : w.Closing see) (performs : p.Performs see)
    (acts : w.Acts p program queue happening after)
    (alone : w.OnlyAt happening.request.queue happening.turn.thread)
    : after.effort p see + 1 ≤ w.effort p see := by
  have own := closing.toil_self performs acts alone
  obtain ⟨queues, programs⟩ := acts.lengths
  have elements
      : ∑ k ∈ Finset.range w.queues.length, after.buffered k
          + w.buffered happening.request.queue
        = ∑ k ∈ Finset.range w.queues.length, w.buffered k
          + after.buffered happening.request.queue := by
    refine sum_range_change (List.getElem?_eq_some_iff.mp acts.found).1 fun k different => ?_
    rw [buffered, buffered, acts.queue_other different]
  have toils
      : ∑ thread ∈ Finset.range w.programs.length, after.toil p see thread
          + w.toil p see happening.turn.thread
        = ∑ thread ∈ Finset.range w.programs.length, w.toil p see thread
          + after.toil p see happening.turn.thread :=
    sum_range_change (List.getElem?_eq_some_iff.mp acts.runs).1 fun thread different =>
      acts.toil_other (closing.shut acts.found) different
  have before : w.buffered happening.request.queue = queue.state.ring.length := by
    rw [buffered, acts.found, Option.elim_some]
  have later
      : after.buffered happening.request.queue
        = happening.turn.progress.queue.state.ring.length := by
    rw [buffered, acts.queue_self, Option.elim_some]
  rw [effort, effort, queues, programs]
  omega

/-- Every thread goes on with its task, where a step does not change it or gives it an answer.
-/
theorem Closing.resumes (closing : w.Closing see) (performs : p.Performs see)
    (acts : w.Acts p program queue happening after) {thread : Nat} {later : σ}
    (runs : after.programs[thread]? = some later)
    : ∃ old task,
        w.task? see thread = some old
        ∧ old.Proper w.queues.length
        ∧ see later = some task
        ∧ (task = old ∨ ∃ answer, task = old.resume answer) := by
  by_cases own : thread = happening.turn.thread
  · subst own
    obtain ⟨old, seen, proper⟩ := closing.performs acts.runs
    have starts := Option.bind_eq_some_iff.mpr ⟨_, acts.runs, seen⟩
    cases answered : happening.turn.progress.answer with
    | none =>
      rw [acts.program_waits answered] at runs
      obtain rfl := Option.some.inj (acts.runs.symm.trans runs)
      exact ⟨old, old, starts, proper, seen, Or.inl rfl⟩
    | some answer =>
      obtain rfl := Option.some.inj ((acts.program_resumes answered).symm.trans runs)
      exact ⟨old, _, starts, proper, performs.resumes seen answer, Or.inr ⟨answer, rfl⟩⟩
  · rw [acts.program_other own] at runs
    obtain ⟨old, seen, proper⟩ := closing.performs runs
    have starts := Option.bind_eq_some_iff.mpr ⟨_, runs, seen⟩
    exact ⟨old, old, starts, proper, seen, Or.inl rfl⟩

/-- Every step keeps all queues closed and all tasks proper. -/
theorem Closing.step (closing : w.Closing see) (performs : p.Performs see)
    (acts : w.Acts p program queue happening after)
    : after.Closing see where
  shut := by
    intro k q found
    by_cases here : k = happening.request.queue
    · subst here
      obtain rfl := Option.some.inj (acts.queue_self.symm.trans found)
      exact (closing.shut acts.found).transition (.of_step? acts.made)
    · exact closing.shut ((acts.queue_other here).symm.trans found)
  performs := by
    intro thread later runs
    rw [acts.lengths.1]
    obtain ⟨old, task, _, proper, seen, rfl | ⟨answer, rfl⟩⟩ :=
      closing.resumes performs acts runs
    · exact ⟨task, seen, proper⟩
    · exact ⟨_, seen, proper.resume answer⟩

end

end World

end Conduit
