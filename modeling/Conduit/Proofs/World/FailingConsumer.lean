import Conduit.Proofs.Queue.Entries
import Conduit.Proofs.World.Mirrors
import Conduit.Proofs.World.Tasks

/-! A consumer whose function fails on one of the elements.
By then the pop that got the element has ended and its wakeup has been sent, so that the
failure is nothing that a queue could notice: whatever happens with such a consumer happens
with a thread that makes single pops instead, and does not make another one.
-/

namespace Conduit

variable {τ α : Type}

-----------------------------------------------------------------------------------------
-- Single pops
-----------------------------------------------------------------------------------------

/-- A thread that makes single pops: how many are left, and what it has got. -/
structure SinglePops (α : Type) where
  left : Nat
  got : List α := []

namespace SinglePops

/-- Single calls, one after the other and by the given route, as long as they get elements. -/
def program (queue : Nat) (route : Route) : Program (SinglePops α) α where
  request?
    | ⟨0, _⟩ => none
    | ⟨_ + 1, _⟩ => (Task.call queue route.front.waitPop false).request?
  resume
    | ⟨0, got⟩, _ => ⟨0, got⟩
    | ⟨left + 1, got⟩, answer =>
      match (Task.call queue route.front.waitPop false).resume answer with
      | .finished (.answered (.pop (.ok value))) => ⟨left, got ++ [value]⟩
      | _ => ⟨0, got⟩

/-- A consumer whose function fails on element number `k`, and a thread that has made as many
single pops as the consumer has and is going to make as many as the consumer still may.
-/
inductive Matches (j k : Nat) : Task α → SinglePops α → Prop
  | drains {left seen} (total : seen.length + (left + 1) = k)
    : Matches j k (.drain j ⟨.waitPop .infinite, id⟩ (some k) seen.length seen)
        ⟨left + 1, seen⟩
  | drained {count seen} (stops : seen.length < k)
    : Matches j k (.finished (.drained count seen)) ⟨0, seen⟩
  | failed {seen} (all : seen.length = k)
    : Matches j k (.finished (.consumerFailed seen)) ⟨0, seen⟩
  | lost {answer got} (stops : got.length < k)
    : Matches j k (.finished (.answered answer)) ⟨0, got⟩

theorem Matches.asks {j k : Nat} {task : Task α} {pops : SinglePops α}
    (same : Matches j k task pops) (route : Route)
    : task.request? = (program j route).request? pops := by
  cases same with
  | drains => simp only [Task.request?, program, route.front_waitPop]
  | drained | failed | lost => rfl

/-- They go on alike, by cases on the answer. -/
theorem Matches.resume {j k : Nat} {task : Task α} {pops : SinglePops α}
    (same : Matches j k task pops) (route : Route) (answer : Answer α)
    : Matches j k (task.resume answer) ((program j route).resume pops answer) := by
  cases same with
  | drained stops => exact .drained stops
  | failed all => exact .failed all
  | lost stops => exact .lost stops
  | @drains left seen total =>
    have stops : seen.length < k := by omega
    simp only [program, Task.resume, route.front_waitPop, id]
    cases answer with
    | pop result =>
      cases result with
      | error => exact .drained stops
      | ok value =>
        have longer : seen.length + 1 = (seen ++ [value]).length := by
          rw [List.length_append]
          rfl
        simp only [Task.resumeDrain, Option.some.injEq, longer]
        split
        · rename_i last
          obtain rfl : left = 0 := by omega
          exact .failed last.symm
        · obtain ⟨rest, rfl⟩ : ∃ rest, left = rest + 1 :=
            Nat.exists_eq_succ_of_ne_zero (by omega)
          exact .drains (by omega)
    | sinkFailed => exact .lost stops
    | _ => exact .drained stops

/-- Single pops get what their answers hand out. -/
theorem got_resume (j : Nat) (route : Route) {left : Nat} {got : List α} {answer : Answer α}
    (ends
      : (∃ value, answer = .pop (.ok value))
        ∨ answer = .pop (.error .closed)
        ∨ answer = .sinkFailed)
    : ((program j route).resume ⟨left + 1, got⟩ answer).got = got ++ answer.handedOut := by
  simp only [program, Task.resume, route.front_waitPop, id]
  rcases ends with ⟨value, rfl⟩ | rfl | rfl
  · rfl
  · exact (List.append_nil got).symm
  · exact (List.append_nil got).symm

/-- With `k` elements the function has failed, and there are never more. -/
theorem Matches.failed_iff {j k : Nat} {task : Task α} {pops : SinglePops α}
    (same : Matches j k task pops)
    : pops.got.length ≤ k
      ∧ (pops.got.length = k ↔ ∃ seen, task = .finished (.consumerFailed seen)) := by
  cases same with
  | @drains left seen total =>
    have stops : seen.length < k := by omega
    exact ⟨Nat.le_of_lt stops, iff_of_false (Nat.ne_of_lt stops) (by rintro ⟨_, ⟨⟩⟩)⟩
  | drained stops | lost stops =>
    exact ⟨Nat.le_of_lt stops, iff_of_false (Nat.ne_of_lt stops) (by rintro ⟨_, ⟨⟩⟩)⟩
  | failed all => exact ⟨Nat.le_of_eq all, iff_of_true all ⟨_, rfl⟩⟩

/-- The one thread makes single pops in place of its consumer, and the others go on as they
do.
-/
inductive InPlace (j k thread : Nat) : Nat → Task α ⊕ τ → SinglePops α ⊕ (Task α ⊕ τ) → Prop
  | consumer {task pops} (same : Matches j k task pops)
    : InPlace j k thread thread (.inl task) (.inl pops)
  | other {other program} (away : other ≠ thread)
    : InPlace j k thread other program (.inr program)

/-- Nobody can tell single pops from the consumer. -/
theorem mirrors (others : Program τ α) (j k thread : Nat) (route : Route)
    : (Task.program.beside others).Mirrors
        ((program j route).beside (Task.program.beside others)) (InPlace j k thread) where
  asks same := by
    cases same with
    | consumer same => exact same.asks route
    | other => rfl
  resumes same answer := by
    cases same with
    | consumer same => exact .consumer (same.resume route answer)
    | other away => exact .other away

end SinglePops

namespace World

/-- The same world, with a thread that makes single pops in place of its program. -/
def withPops (w : World (Task α ⊕ τ) α) (thread count : Nat)
    : World (SinglePops α ⊕ (Task α ⊕ τ)) α where
  now := w.now
  queues := w.queues
  programs := (w.programs.map .inr).set thread (.inl { left := count })
  log := w.log

/-- The function of a consumer has failed on the last of these elements. -/
def FailedAfter (w : World (Task α ⊕ τ) α) (thread : Nat) (seen : List α) : Prop :=
  w.programs[thread]? = some (.inl (.finished (.consumerFailed seen)))

/-- A thread is about to hand everything from queue `j` to a function that is going to fail on
element number `k`.
-/
def DrainsUpTo (w : World (Task α ⊕ τ) α) (j thread k : Nat) : Prop :=
  ∃ route : Route,
    w.programs[thread]? = some (.inl (.drain j route.front.waitPop (some k) 0 []))

/-- A world with single pops in place of a consumer, in which all else is the same: the single
pops have got `k` elements if and only if the function of the consumer has failed, and then
they are the same ones.
-/
structure Alike (k thread : Nat) (w : World (Task α ⊕ τ) α)
    (w' : World (SinglePops α ⊕ (Task α ⊕ τ)) α)
    : Prop where
  now : w'.now = w.now
  queues : w'.queues = w.queues
  log : w'.log = w.log
  others : ∀ {other}, other ≠ thread → w'.programs[other]? = w.programs[other]?.map .inr
  got
    : ∀ {seen},
        w.FailedAfter thread seen
        ↔ w'.programs[thread]? = some (.inl { left := 0, got := seen }) ∧ seen.length = k

section
variable {others : Program τ α} {start w after : World (Task α ⊕ τ) α}
  {w' : World (SinglePops α ⊕ (Task α ⊕ τ)) α} {history : List (Happening α)}
  {j k thread : Nat} {values : List α}

theorem Mirrored.alike (same : w.Mirrored (SinglePops.InPlace j k thread) w')
    : w.Alike k thread w' where
  now := same.now.symm
  queues := same.queues.symm
  log := same.log.symm
  others := by
    intro other away
    have rel := same.programs other
    generalize w.programs[other]? = task at rel ⊢
    generalize w'.programs[other]? = instead at rel ⊢
    cases rel with
    | none => rfl
    | some related =>
      cases related with
      | consumer => exact absurd rfl away
      | other => rfl
  got := by
    intro seen
    constructor
    · intro failed
      obtain ⟨_, runs, related⟩ := same.program failed
      cases related with
      | other away => exact absurd rfl away
      | consumer matched =>
        cases matched with
        | failed all => exact ⟨runs, all⟩
    · intro ⟨runs, all⟩
      obtain ⟨_, here, related⟩ := same.symm.program runs
      cases related with
      | consumer matched =>
        cases matched with
        | failed => exact here
        | drained stops | lost stops => exact absurd all (Nat.ne_of_lt stops)

/-- At first all is the same. -/
theorem DrainsUpTo.mirrored (drains : start.DrainsUpTo j thread k) (positive : 0 < k)
    : start.Mirrored (SinglePops.InPlace j k thread) (start.withPops thread k) where
  now := rfl
  queues := rfl
  log := rfl
  programs := by
    intro other
    obtain ⟨route, starts⟩ := drains
    unfold withPops
    by_cases own : other = thread
    · subst own
      have within := (List.getElem?_eq_some_iff.mp starts).1
      obtain ⟨left, rfl⟩ := Nat.exists_eq_succ_of_ne_zero (Nat.ne_of_gt positive)
      rw [List.getElem?_set_self (by rwa [List.length_map]), starts, route.front_waitPop]
      exact .some (.consumer (@SinglePops.Matches.drains _ j _ left [] (Nat.zero_add _)))
    · rw [List.getElem?_set_ne (Ne.symm own), List.getElem?_map]
      cases start.programs[other]? with
      | none => exact .none
      | some program => exact .some (.other own)

-----------------------------------------------------------------------------------------
-- The failure
-----------------------------------------------------------------------------------------

/-- Single pops in place of the consumer have got what it has been handed, by induction on
the run.
-/
theorem Run.matched (run : Run (Task.program.beside others) start history w)
    (opens : start.Opens j values) (drains : start.DrainsUpTo j thread k) (positive : 0 < k)
    : ∃ task,
        w.programs[thread]? = some (.inl task)
        ∧ ∃ pops,
          SinglePops.Matches j k task pops ∧ handed history j thread = pops.got := by
  obtain ⟨route, starts⟩ := drains
  obtain ⟨left, rfl⟩ := Nat.exists_eq_succ_of_ne_zero (Nat.ne_of_gt positive)
  rw [route.front_waitPop] at starts
  have begins : SinglePops.Matches (α := α) j (left + 1) _ ⟨left + 1, []⟩ :=
    .drains (Nat.zero_add _)
  refine run.task starts
    (P := fun history _ task =>
      ∃ pops, SinglePops.Matches j (left + 1) task pops ∧ handed history j thread = pops.got)
    ⟨_, begins, rfl⟩ ?kept ?resumes fun _ => id
  case kept =>
    rintro history w program queue happening after task before ⟨pops, matched, same⟩ _ _ quiet
    have nothing := (learns_nothing history happening j thread fun _ => quiet).1
    exact ⟨pops, matched, nothing.trans same⟩
  case resumes =>
    rintro history w queue happening after task answer before ⟨pops, matched, same⟩ asks acts
      own answered
    refine ⟨_, matched.resume .own answer, ?_⟩
    cases matched with
    | drained | failed | lost => cases asks
    | drains =>
      obtain ⟨here, waits, _⟩ := Request.mk.inj (Option.some.inj asks)
      subst here
      have ends := before.waitPop_cases opens acts answered waits.symm
      rw [(learns history rfl own answered).1, same, SinglePops.got_resume]
      exact ends.imp_right fun other => other.imp_right And.left

/-- The function is handed `k` elements at most, and with that many it has failed. -/
theorem Run.failed_iff (run : Run (Task.program.beside others) start history w)
    (opens : start.Opens j values) (drains : start.DrainsUpTo j thread k) (positive : 0 < k)
    : (handed history j thread).length ≤ k
      ∧ ((handed history j thread).length = k ↔ ∃ seen, w.FailedAfter thread seen) := by
  obtain ⟨task, runs, pops, matched, same⟩ := run.matched opens drains positive
  obtain ⟨few, all⟩ := matched.failed_iff
  rw [same]
  refine ⟨few, all.trans ⟨?_, ?_⟩⟩
  · rintro ⟨seen, rfl⟩
    exact ⟨seen, runs⟩
  · rintro ⟨seen, failed⟩
    exact ⟨seen, Sum.inl.inj (Option.some.inj (runs.symm.trans failed))⟩

/-- What the consumer has taken when its function has failed. -/
theorem Run.failed_taken (run : Run (Task.program.beside others) start history w)
    (opens : start.Opens j values) (drains : start.DrainsUpTo j thread k) {seen : List α}
    (failed : w.FailedAfter thread seen)
    : seen.length = k
      ∧ handed history j thread = seen
      ∧ takenFrom history j thread = seen := by
  obtain ⟨route, starts⟩ := drains
  obtain ⟨task, runs, consumes⟩ := run.consumes opens starts
  obtain rfl := Sum.inl.inj (Option.some.inj (runs.symm.trans failed))
  obtain ⟨all, same⟩ := consumes
  have told := run.told_taken opens starts failed fun asks => by cases asks
  exact ⟨(Option.some.inj all).symm, same, told.trans same⟩

/-- A consumer that has been told of a failure of the sink has ended with it, by induction on
the run.
-/
theorem Run.ended_of_sinkFailed (run : Run (Task.program.beside others) start history w)
    (opens : start.Opens j values) (drains : start.DrainsUpTo j thread k)
    : ∃ task,
        w.programs[thread]? = some (.inl task)
        ∧ (.sinkFailed ∈ replies history j thread
          → task = .finished (.answered .sinkFailed)) := by
  obtain ⟨route, starts⟩ := drains
  refine run.task starts
    (P := fun history _ task =>
      .sinkFailed ∈ replies history j thread → task = .finished (.answered .sinkFailed))
    (fun told => by cases told) ?kept ?resumes fun _ => id
  case kept =>
    intro history w program queue happening after task before ended _ _ quiet told
    rw [(learns_nothing history happening j thread fun _ => quiet).2.2] at told
    exact ended told
  case resumes =>
    intro history w queue happening after task answer before ended asks acts own answered told
    obtain ⟨_, same, consumes⟩ := before.consumes opens starts
    subst own
    obtain rfl := Sum.inl.inj (Option.some.inj (acts.runs.symm.trans same))
    cases task with
    | finished => cases asks
    | call | stage => exact consumes.elim
    | drain queue take failAt count seen =>
      obtain ⟨rfl, rfl, _⟩ := consumes
      have here := congrArg Request.queue (Option.some.inj asks).symm
      rw [(learns history here rfl answered).2.2] at told
      rcases List.mem_append.mp told with earlier | newest
      · cases ended earlier
      · obtain rfl := List.mem_singleton.mp newest
        rfl

/-- The step in which the function of a consumer fails on the element `value`: the pop that
has got it gives back the lock of the queue, and nothing else happens anywhere.
-/
structure FailsOn (k : Nat) (w after : World (Task α ⊕ τ) α) (j thread : Nat) (action : Action)
    (queue : Queue α) (earlier : List α) (value : α)
    : Prop where
  leaves : action = .leave
  found : w.queues[j]? = some queue
  held : queue.holder = some thread
  inside
    : ∃ call reporting,
        queue.phase? thread = some (.inside call (.answered (.pop (.ok value))) reporting)
  runs
    : w.programs[thread]?
      = some (.inl (.drain j ⟨.waitPop .infinite, id⟩ (some k) earlier.length earlier))
  now : after.now = w.now
  queues : after.queues = w.queues.set j ({ queue with holder := none }.setPhase thread .idle)
  programs
    : after.programs
      = w.programs.set thread (.inl (.finished (.consumerFailed (earlier ++ [value]))))
  log : after.log = w.log

theorem Run.failsOn (run : Run (Task.program.beside others) start history w)
    (opens : start.Opens j values) (drains : start.DrainsUpTo j thread k) {action : Action}
    (made : w.step? (Task.program.beside others) thread action = some after) {seen : List α}
    (failed : after.FailedAfter thread seen)
    : ∃ queue earlier value,
        seen = earlier ++ [value] ∧ FailsOn k w after j thread action queue earlier value := by
  obtain ⟨route, starts⟩ := drains
  obtain ⟨task, runs, consumes⟩ := run.consumes opens starts
  obtain ⟨program, queue, happening, happens, rfl, acts⟩ := Acts.of_step? made
  obtain ⟨_, moves, now, log⟩ := step?_frame made happens
  obtain rfl := Option.some.inj (runs.symm.trans acts.runs)
  match task, consumes with
  | .finished _, _ => cases acts.asks
  | .drain _ _ _ _ earlier, ⟨rfl, rfl, rfl, rfl, _⟩ =>
    obtain ⟨value, answered, rfl, programs⟩ := acts.popped_of_failed failed
    have request := (Option.some.inj acts.asks).symm
    have here : happening.request.queue = j := congrArg Request.queue request
    have waits : happening.request.operation = .waitPop .infinite :=
      congrArg Request.operation request
    have known : start.Opens happening.request.queue values := by rwa [here]
    obtain ⟨⟨call, reporting, inside, _⟩, leaves, progress⟩ :=
      run.leaves_of_waiter known acts answered nofun (congrArg Operation.side? waits)
    have queues := acts.queues
    rw [here, progress] at queues
    rw [progress] at log
    refine
      ⟨queue, earlier, value, rfl, ?leaves, here ▸ acts.found, ?held,
        ⟨call, reporting, inside⟩, runs, now, queues, programs, log⟩
    case leaves =>
      have same := moves.symm.trans leaves
      cases action <;> cases same
      rfl
    case held => exact ((run.known known acts.found).orderly.fits inside).holder rfl

/-- A consumer whose function has failed is in no call, and it has taken out every entry that
it has had in the bookkeeping of the sleepers.
-/
theorem Run.failed_idle (run : Run (Task.program.beside others) start history w)
    (opens : start.Opens j values) (drains : start.DrainsUpTo j thread k) {seen : List α}
    (failed : w.FailedAfter thread seen)
    : ∃ first queue,
        start.queues[j]? = some first
        ∧ w.queues[j]? = some queue
        ∧ queue.phase? thread = some .idle
        ∧ ∀ side, Queue.entryBalance thread side first (turnsAt history j) = 0 := by
  obtain ⟨route, starts⟩ := drains
  obtain ⟨queue, phase, here, found, _, rfl | ⟨_, _, asks, _⟩⟩ :=
    run.told_by opens starts failed
  · have begin : Run (Task.program.beside others) start [] start := .start
    obtain ⟨first, old, there, begins⟩ := begin.place opens starts
    have known := opens
    obtain ⟨_, _, fresh, _, created, opened⟩ := opens
    obtain rfl := Option.some.inj (opened.symm.trans there)
    obtain rfl := Queue.phase?_withThreads begins
    obtain ⟨last, reached, inner⟩ := run.queue there
    obtain rfl := Option.some.inj (here.symm.trans reached)
    refine ⟨_, queue, there, here, found, fun side => ?_⟩
    -- A stumble would have ended the consumer before its function could fail.
    have upright : ¬Stumbled (turnsAt history j) thread := by
      intro stumbled
      rcases inner.told_of_stumble (.of_created created) stumbled with
        told | ⟨phase, same, ahead⟩
      · obtain ⟨task, runs, ended⟩ := run.ended_of_sinkFailed known ⟨route, starts⟩
        obtain rfl := ended told
        cases failed.symm.trans runs
      · obtain rfl := Option.some.inj (found.symm.trans same)
        rcases ahead with lost | ⟨_, _, other⟩
        · cases lost
        · cases other
    rw [inner.entryBalance_eq (.of_created created) (.of_created created side) begins found,
      Queue.desertions_of_upright upright, Int.sub_self]
    rfl
  · cases asks

/-- A consumer whose function fails on element number `k` does no harm to anybody else, in the
run `history` that has led to `w`. It is handed no more than `k` elements, and with that many
it has failed; they are what it has taken, in the order in which the queue has accepted them,
and the first ones if nobody else has taken any. All other elements that the queue has ever
accepted have been taken by somebody who has been or will be handed them, or are buffered in
order. The failure itself does nothing but what every pop does that has ended well, and the
consumer is then in no call and in no bookkeeping. Whoever pops afterwards goes on with what
is buffered. And all would have gone the same way, with the same wakeups, if the consumer had
made `k` single pops instead.
-/
structure HarmsNobody (others : Program τ α) (start : World (Task α ⊕ τ) α)
    (j thread k : Nat) (values : List α) (history : List (Happening α))
    (w : World (Task α ⊕ τ) α)
    : Prop where
  reaches
    : (handed history j thread).length ≤ k
      ∧ ((handed history j thread).length = k ↔ ∃ seen, w.FailedAfter thread seen)
  handsOver
    : ∀ {seen},
        w.FailedAfter thread seen
        → seen.length = k
          ∧ handed history j thread = seen
          ∧ takenFrom history j thread = seen
          ∧ seen.Sublist (accepted values (turnsAt history j))
          ∧ ((∀ exit ∈ Queue.takenBy (turnsAt history j), exit.1 = thread)
            → seen = (accepted values (turnsAt history j)).take k)
  losesNothing
    : ∃ queue,
        w.queues[j]? = some queue
        ∧ accepted values (turnsAt history j)
          = (Queue.takenBy (turnsAt history j)).map Prod.snd ++ queue.state.ring.toList
        ∧ ∀ {other phase}, queue.phase? other = some phase → Told history j other phase
  fails
    : ∀ {action after seen},
        w.step? (Task.program.beside others) thread action = some after
        → after.FailedAfter thread seen
        → ∃ queue earlier value,
          seen = earlier ++ [value] ∧ FailsOn k w after j thread action queue earlier value
  leavesNothing
    : ∀ {seen},
        w.FailedAfter thread seen
        → ∃ first queue,
          start.queues[j]? = some first
          ∧ w.queues[j]? = some queue
          ∧ queue.phase? thread = some .idle
          ∧ ∀ side, Queue.entryBalance thread side first (turnsAt history j) = 0
  continues
    : ∀ {late last},
        Run (Task.program.beside others) w late last
        → ∃ queue later,
          w.queues[j]? = some queue
          ∧ last.queues[j]? = some later
          ∧ queue.state.ring.toList ++ (Queue.storedBy (turnsAt late j)).map Prod.snd
            = (Queue.takenBy (turnsAt late j)).map Prod.snd ++ later.state.ring.toList
  next
    : ∀ {queue other sleptOn value rest now} {call : Call α},
        w.queues[j]? = some queue
        → queue.holder = none
        → queue.phase? other = some (call.atDoor sleptOn)
        → call.operation.isPop = true
        → queue.state.ring.toList = value :: rest
        → ∀ preferred,
          ∃ progress,
            queue.step? now other (.enter preferred) = some progress
            ∧ progress.queue.state.ring.toList = rest
            ∧ ∀ {between late},
                Queue.Run progress.queue between late
                → (∀ turn ∈ between, turn.thread ≠ other)
                → ∀ later,
                  ∃ ended,
                    late.step? later other .leave = some ended
                    ∧ ended.answer = some (.pop (.ok value))
  singly
    : ∀ route,
        ∃ w',
          Run ((SinglePops.program j route).beside (Task.program.beside others))
            (start.withPops thread k) history w'
          ∧ w.Alike k thread w'
  conversely
    : ∀ {route turns w'},
        Run ((SinglePops.program j route).beside (Task.program.beside others))
          (start.withPops thread k) turns w'
        → ∃ reached,
          Run (Task.program.beside others) start turns reached
          ∧ reached.Alike k thread w'

/-- For every consumer whose function fails on some element, in every run; witness: a pop has
ended when the function is called, and single pops ask for the same and are answered the same.
-/
theorem failing_consumer (opens : start.Opens j values)
    (drains : start.DrainsUpTo j thread k) (positive : 0 < k)
    (run : Run (Task.program.beside others) start history w)
    : HarmsNobody others start j thread k values history w := by
  obtain ⟨_, _, _, _, _, queue, created, here, inner⟩ := run.opened opens
  have order := inner.order created
  have orderly := inner.orderly created
  refine ⟨run.failed_iff opens drains positive, ?handsOver, ⟨queue, here, order, ?told⟩,
    ?fails, run.failed_idle opens drains, ?continues, ?next, ?singly, ?conversely⟩
  case handsOver =>
    intro seen failed
    obtain ⟨all, same, taken⟩ := run.failed_taken opens drains failed
    refine ⟨all, same, taken, ?_, fun alone => ?_⟩
    · rw [accepted, order, ← taken]
      exact List.filter_sublist.map Prod.snd |>.trans (List.sublist_append_left ..)
    · have whole : takenFrom history j thread
          = (Queue.takenBy (turnsAt history j)).map Prod.snd := by
        rw [takenFrom, List.filter_eq_self.mpr fun exit member => by
          rw [alone exit member, beq_self_eq_true]]
      rw [accepted, order, ← whole, taken, ← all, List.take_left]
  case told => exact run.told opens here
  case fails => exact fun made failed => run.failsOn opens drains made failed
  case continues =>
    intro late last rest
    obtain ⟨later, there, onwards⟩ := rest.queue here
    exact ⟨queue, later, here, there, (onwards.elements orderly).2⟩
  case next =>
    intro same other sleptOn call value rest now found free door pop elements preferred
    obtain rfl := Option.some.inj (here.symm.trans found)
    exact orderly.pops free door pop elements preferred
  case singly =>
    intro route
    obtain ⟨w', run', same⟩ :=
      run.mirrored (SinglePops.mirrors others j k thread route) (drains.mirrored positive)
    exact ⟨w', run', same.alike⟩
  case conversely =>
    intro route turns w' run'
    obtain ⟨reached, run, same⟩ :=
      run'.mirrored (SinglePops.mirrors others j k thread route).symm
        (drains.mirrored positive).symm
    exact ⟨reached, run, Mirrored.alike same.symm⟩

end

/-- A consumer whose function fails on the second element, two producers that find no room,
and another consumer.
-/
def failingOnSecond : World (Task Nat ⊕ Task Nat) Nat :=
  { queues := [(Queue.ofRing (.ofCapacity 1) ((Ring.empty 1).pushed 7)).withThreads .ofWords 4]
    programs :=
      [.inl (.drain 0 (Route.shared .endpoint).front.waitPop (some 2) 0 []),
        .inr (.call 0 (Route.own.back.push 8) false),
        .inr (.call 0 (Route.own.back.push 9) false),
        .inr (.call 0 Route.own.front.valuePop false)] }

/-- Both producers sleep at first, and each of the two pops lets one of them in. -/
def letIn : List (Nat × Action) :=
  calls [1, 2] ++ calls [0] ++ [(1, .enter []), (1, .leave)]
    ++ calls [0] ++ [(2, .enter []), (2, .leave)] ++ calls [3]

/-- The second producer is let in by the pop that the function has failed after, and the other
consumer gets its element.
-/
theorem failing_consumer_letIn
    : let played := failingOnSecond.play (Task.program.beside Task.program) letIn
      played.2.FailedAfter 0 [7, 8]
      ∧ played.2.programs[2]? = some (.inr (.finished (.answered (.offered (.ok ())))))
      ∧ played.2.programs[3]? = some (.inr (.finished (.answered (.received (.ok 9)))))
      ∧ HarmsNobody Task.program failingOnSecond 0 0 2 [7] played.1 played.2 := by
  have opens : failingOnSecond.Opens 0 [7] := ⟨8, .ofCapacity 1, _, _, rfl, rfl⟩
  exact ⟨rfl, rfl, rfl,
    failing_consumer opens ⟨.shared .endpoint, rfl⟩ Nat.two_pos
      (.of_play _ failingOnSecond letIn)⟩

end World

end Conduit
