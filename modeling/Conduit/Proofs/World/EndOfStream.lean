import Conduit.Proofs.World.Tasks

/-! The end of the stream for the callers of a queue.
It comes once, to everybody and for good, so that consumers that go on until they are told
of it have shared out all that the queue has accepted.
-/

namespace Conduit

variable {τ α : Type}

/-- Whether a caller of an operation learns from its answer that the stream has ended, the
operation being one of the queue's own or the pop of an end that reports nothing else.
-/
def Operation.ReportsEnd (operation : Operation α) (answer : Answer α) : Prop :=
  answer = .pop (.error .closed)
  ∨ ∃ route : Route,
    operation = route.front.valuePop.operation
    ∧ route.front.valuePop.read answer = .received (.error ⟨()⟩)

-----------------------------------------------------------------------------------------
-- Sharing out
-----------------------------------------------------------------------------------------

/-- The numbers of what consumers have got each add up. -/
theorem length_flatMap_shares (consumers : List Nat) (share : Nat → List α)
    : (consumers.flatMap share).length
      = (consumers.map fun thread => (share thread).length).foldr (· + ·) 0 := by
  induction consumers with
  | nil => rfl
  | cons first rest ih =>
    rw [List.flatMap_cons, List.length_append, ih]
    rfl

/-- What consumers have got each is together what they have got, if they are all there are; by
induction on the consumers.
-/
theorem flatMap_shares_perm {consumers : List Nat} (distinct : consumers.Nodup)
    {exits : List (Nat × α)} (theirs : ∀ exit ∈ exits, exit.1 ∈ consumers)
    : (consumers.flatMap fun thread =>
          (exits.filter fun exit => exit.1 == thread).map Prod.snd).Perm
        (exits.map Prod.snd) := by
  induction consumers generalizing exits with
  | nil =>
    have none : exits = [] :=
      List.eq_nil_iff_forall_not_mem.mpr fun exit member => nomatch theirs exit member
    rw [none]
    exact .rfl
  | cons first rest ih =>
    obtain ⟨fresh, distinct⟩ := List.nodup_cons.mp distinct
    have split := List.filter_append_perm (fun exit : Nat × α => exit.1 == first) exits
    have later := @ih distinct (exits.filter fun exit => !(exit.1 == first)) (by
      intro exit member
      obtain ⟨member, different⟩ := List.mem_filter.mp member
      rcases List.mem_cons.mp (theirs exit member) with same | later
      · rw [same, beq_self_eq_true] at different
        cases different
      · exact later)
    -- Without the exits of the first consumer the others have the same ones.
    have same
        : (rest.flatMap fun thread =>
            ((exits.filter fun exit => !(exit.1 == first)).filter fun exit =>
              exit.1 == thread).map Prod.snd)
          = rest.flatMap fun thread =>
              (exits.filter fun exit => exit.1 == thread).map Prod.snd := by
      simp only [List.flatMap_def]
      congr 1
      refine List.map_congr_left fun thread member => ?_
      rw [List.filter_filter]
      congr 1
      refine List.filter_congr fun exit _ => ?_
      cases own : exit.1 == thread with
      | false => rfl
      | true =>
        have different : exit.1 ≠ first := by
          rw [beq_iff_eq] at own
          rw [own]
          exact fun same => fresh (same ▸ member)
        rw [beq_false_of_ne different]
        rfl
    rw [same] at later
    rw [List.flatMap_cons]
    exact (later.append_left _).trans (by simpa only [List.map_append] using split.map Prod.snd)

-----------------------------------------------------------------------------------------
-- The end of the stream at one queue of a world
-----------------------------------------------------------------------------------------

namespace World

/-- A thread is about to take everything from queue `k`, and its function may be going to fail
on one of the elements.
-/
def Drains (w : World (Task α ⊕ τ) α) (k thread : Nat) : Prop :=
  ∃ (route : Route) (failAt : Option Nat),
    w.programs[thread]? = some (.inl (.drain k route.front.waitPop failAt 0 []))

/-- What the end of the stream at queue `k` means after a run, the queue having been created
with these values. A closed queue stays closed and accepts nothing more. Nobody is told of
the end of the stream unless the queue is exhausted by then, and after that nobody is told
anything else: a pop reports it or finds the lock taken, if it does not wait for that, and a
drain takes nothing. Only a call that the sink has failed under before can still end with
that failure. A consumer that takes everything goes on until then, unless its own function
fails or the sink does in its report of a poisoned lock, and what it has got is in order; and
if such consumers are the only ones, they have shared out among them all that the queue has
accepted.
-/
structure StreamEnds (p : Program (Task α ⊕ τ) α) (start : World (Task α ⊕ τ) α) (k : Nat)
    (values : List α) (history : List (Happening α)) (w : World (Task α ⊕ τ) α)
    : Prop where
  final
    : ∀ {queue late last},
        w.queues[k]? = some queue
        → queue.state.closed = true
        → Run p w late last
        → Queue.storedBy (turnsAt late k) = []
          ∧ ∃ later, last.queues[k]? = some later ∧ later.state.closed = true
  exact
    : ∀ {thread action after happening answer},
        w.step? p thread action = some after
        → w.happening? p thread action = some happening
        → happening.request.queue = k
        → happening.turn.progress.answer = some answer
        → happening.request.operation.ReportsEnd answer
        → ∃ queue,
          after.queues[k]? = some queue
          ∧ queue.Exhausted values (turnsAt (history ++ [happening]) k)
  later
    : ∀ {thread action after happening answer},
        Ended history k
        → w.step? p thread action = some after
        → w.happening? p thread action = some happening
        → happening.request.queue = k
        → happening.turn.progress.answer = some answer
        → (happening.request.operation.isPop = true
            → answer = .pop (.error .closed)
              ∨ happening.request.operation.busy? = some answer
              ∨ answer = .sinkFailed
                ∧ ∃ failure ∈ turnsAt history k,
                  failure.thread = thread ∧ failure.move.isFailure = true)
          ∧ (happening.request.operation = .drain
            → answer = .drained []
              ∨ answer = .sinkFailed
                ∧ ∃ failure ∈ turnsAt history k,
                  failure.thread = thread ∧ failure.move.isFailure = true)
  stops
    : ∀ {thread report},
        start.Drains k thread
        → w.programs[thread]? = some (.inl (.finished report))
        → (∃ count seen, report = .drained count seen)
          ∨ (∃ seen, report = .consumerFailed seen)
          ∨ report = .answered .sinkFailed ∧ Stumbled (turnsAt history k) thread
  drains
    : ∀ {thread count seen},
        start.Drains k thread
        → w.programs[thread]? = some (.inl (.finished (.drained count seen)))
        → (∃ queue, w.queues[k]? = some queue ∧ queue.Exhausted values (turnsAt history k))
          ∧ count = seen.length
          ∧ takenFrom history k thread = seen
          ∧ seen.Sublist (accepted values (turnsAt history k))
  shares
    : ∀ {consumers : List Nat} {count : Nat → Nat} {seen : Nat → List α},
        consumers ≠ []
        → consumers.Nodup
        → (∀ thread ∈ consumers,
            start.Drains k thread
            ∧ w.programs[thread]?
              = some (.inl (.finished (.drained (count thread) (seen thread)))))
        → (∀ exit ∈ Queue.takenBy (turnsAt history k), exit.1 ∈ consumers)
        → (consumers.map count).foldr (· + ·) 0
            = (accepted values (turnsAt history k)).length
          ∧ (consumers.flatMap seen).Perm (accepted values (turnsAt history k))
          ∧ (Queue.takenBy (turnsAt history k)).map Prod.snd
            = accepted values (turnsAt history k)
          ∧ ∀ thread ∈ consumers, takenFrom history k thread = seen thread

variable {others : Program τ α} {start w : World (Task α ⊕ τ) α} {history : List (Happening α)}
  {k : Nat} {values : List α}

/-- Whoever learns that the stream has ended has been told so by the queue. -/
theorem Run.reports_end {σ : Type} {p : Program σ α} {start w after : World σ α} {program : σ}
    {queue : Queue α} {happening : Happening α} (run : Run p start history w)
    (opens : start.Opens happening.request.queue values)
    (acts : w.Acts p program queue happening after) {answer : Answer α}
    (answered : happening.turn.progress.answer = some answer)
    (reports : happening.request.operation.ReportsEnd answer)
    : answer = .pop (.error .closed) := by
  rcases reports with closed | ⟨route, waits, reads⟩
  · exact closed
  · rw [route.front_valuePop] at waits reads
    rcases run.waitPop_cases opens acts answered waits with ⟨value, rfl⟩ | closed | ⟨rfl, _⟩
    · cases reads
    · exact closed
    · cases reads

/-- Once somebody has been told of the end of the stream, the queue is exhausted. -/
theorem Run.exhausted (run : Run (Task.program.beside others) start history w)
    (opens : start.Opens k values) (ended : Ended history k)
    : ∃ queue,
        w.queues[k]? = some queue
        ∧ queue.Exhausted values (turnsAt history k)
        ∧ queue.Known (Fifo.Ending []) := by
  obtain ⟨turn, member, closed⟩ := ended
  obtain ⟨_, _, _, _, _, queue, created, here, inner⟩ := run.opened opens
  exact ⟨queue, here, inner.exhausted created member closed, inner.ended created member closed⟩

/-- What a consumer that takes everything has got when it is through. -/
theorem Run.drained (run : Run (Task.program.beside others) start history w)
    (opens : start.Opens k values) {thread count : Nat} {seen : List α}
    (drains : start.Drains k thread)
    (through : w.programs[thread]? = some (.inl (.finished (.drained count seen))))
    : Ended history k ∧ count = seen.length ∧ takenFrom history k thread = seen := by
  obtain ⟨route, failAt, starts⟩ := drains
  obtain ⟨task, runs, consumes⟩ := run.consumes opens starts
  obtain rfl := Sum.inl.inj (Option.some.inj (runs.symm.trans through))
  obtain ⟨ended, counts, same⟩ := consumes
  have told := run.told_taken opens starts through fun asks => by cases asks
  exact ⟨ended, counts, told.trans same⟩

/-- If whoever has taken anything is a consumer that has taken everything, these consumers have
shared out all that the queue has accepted.
-/
theorem Run.shared (run : Run (Task.program.beside others) start history w)
    (opens : start.Opens k values) {consumers : List Nat} {count : Nat → Nat}
    {seen : Nat → List α} (some_consumer : consumers ≠ []) (distinct : consumers.Nodup)
    (through
      : ∀ thread ∈ consumers,
          start.Drains k thread
          ∧ w.programs[thread]?
            = some (.inl (.finished (.drained (count thread) (seen thread)))))
    (theirs : ∀ exit ∈ Queue.takenBy (turnsAt history k), exit.1 ∈ consumers)
    : (consumers.map count).foldr (· + ·) 0 = (accepted values (turnsAt history k)).length
      ∧ (consumers.flatMap seen).Perm (accepted values (turnsAt history k))
      ∧ (Queue.takenBy (turnsAt history k)).map Prod.snd
        = accepted values (turnsAt history k)
      ∧ ∀ thread ∈ consumers, takenFrom history k thread = seen thread := by
  have each
      : ∀ thread ∈ consumers,
          Ended history k
          ∧ count thread = (seen thread).length
          ∧ takenFrom history k thread = seen thread :=
    fun thread member =>
      run.drained opens (through thread member).1 (through thread member).2
  obtain ⟨one, member⟩ := List.exists_mem_of_ne_nil consumers some_consumer
  obtain ⟨queue, here, exhausted, _⟩ := run.exhausted opens (each one member).1
  have shared : (consumers.flatMap seen).Perm (accepted values (turnsAt history k)) := by
    have shares := flatMap_shares_perm distinct theirs
    rw [exhausted.taken] at shares
    have same : consumers.map seen = consumers.map (takenFrom history k) :=
      List.map_congr_left fun thread member => (each thread member).2.2.symm
    rw [List.flatMap_def, same]
    exact shares
  refine ⟨?_, shared, exhausted.taken, fun thread member => (each thread member).2.2⟩
  have counts : consumers.map count = consumers.map fun thread => (seen thread).length :=
    List.map_congr_left fun thread member => (each thread member).2.1
  rw [counts, ← length_flatMap_shares, shared.length_eq]

/-- The end of the stream is exact and final, whatever programs use the queue. -/
theorem end_of_stream (opens : start.Opens k values)
    (run : Run (Task.program.beside others) start history w)
    : StreamEnds (Task.program.beside others) start k values history w := by
  refine ⟨?final, ?exact, ?later, ?stops, ?drains, ?shares⟩
  case final =>
    intro queue late last found closed rest
    obtain ⟨known, here, orderly⟩ := run.queue_known opens
    obtain rfl := Option.some.inj (found.symm.trans here)
    obtain ⟨later, there, inner⟩ := rest.queue found
    have counts : queue.fifo.closed = true := by
      change (queue.state.closed || queue.poisoned) = true
      rw [closed, Bool.true_or]
    exact ⟨inner.stores_nothing orderly.orderly counts, later, there,
      inner.keepsClosed orderly.orderly closed⟩
  case exact =>
    intro thread action after happening answer made happens here answered reports
    obtain ⟨next, _, program, queue, acts⟩ := run.next made happens
    have closed : answer = .pop (.error .closed) :=
      run.reports_end (here ▸ opens) acts answered reports
    subst closed
    obtain ⟨queue, there, exhausted, _⟩ :=
      next.exhausted opens ⟨_, newest_mem_turnsAt history here, answered⟩
    exact ⟨queue, there, exhausted⟩
  case later =>
    intro thread action after happening answer ended made happens here answered
    obtain ⟨_, own, program, queue, acts⟩ := run.next made happens
    subst here own
    obtain ⟨_, there, exhausted, known⟩ := run.exhausted opens ended
    obtain rfl := Option.some.inj (acts.found.symm.trans there)
    have transition := Queue.Transition.of_step? acts.made
    obtain ⟨deadline, unlimited, reply⟩ := run.reply opens acts known answered
    -- The queue is marked closed by now, so that the sink has failed before.
    have earlier
        : answer = .sinkFailed
          → ∃ failure ∈ turnsAt history happening.request.queue,
            failure.thread = happening.turn.thread ∧ failure.move.isFailure = true := by
      intro lost
      rw [lost] at answered
      rcases transition.lost_of_sinkFailed answered with fails | ⟨old, before, gone⟩
      · have upright := known.orderly.upright_of_closed exhausted.closed
        cases (known.healthy transition upright).symm.trans fails
      · obtain ⟨_, _, _, _, _, _, created, same, inner⟩ := run.opened opens
        obtain rfl := Option.some.inj (acts.found.symm.trans same)
        exact inner.lost_cause created before gone
    refine ⟨fun pops => ?_, fun drain => ?_⟩
    · exact (reply.popped_of_ended pops).imp_right
        (Or.imp_right fun lost => ⟨lost, earlier lost⟩)
    · rw [drain] at unlimited reply
      obtain rfl := unlimited rfl
      exact reply.drained_of_ended.imp_right fun lost => ⟨lost, earlier lost⟩
  case stops =>
    intro thread report drains through
    obtain ⟨route, failAt, starts⟩ := drains
    obtain ⟨task, runs, consumes⟩ := run.consumes opens starts
    obtain rfl := Sum.inl.inj (Option.some.inj (runs.symm.trans through))
    match report, consumes with
    | .drained count seen, _ => exact Or.inl ⟨count, seen, rfl⟩
    | .consumerFailed seen, _ => exact Or.inr (Or.inl ⟨seen, rfl⟩)
    | .answered .sinkFailed, stumbled => exact Or.inr (Or.inr ⟨rfl, stumbled⟩)
  case drains =>
    intro thread count seen drains through
    obtain ⟨ended, counts, taken⟩ := run.drained opens drains through
    obtain ⟨queue, here, exhausted, _⟩ := run.exhausted opens ended
    refine ⟨⟨queue, here, exhausted⟩, counts, taken, ?_⟩
    rw [← taken, ← exhausted.taken]
    exact List.filter_sublist.map Prod.snd
  case shares =>
    intro consumers count seen some_consumer distinct through theirs
    exact run.shared opens some_consumer distinct through theirs

/-- Two consumers that take everything, a producer and somebody who closes, at a queue with
one slot that is taken.
-/
def twoConsumers : World (Task Nat ⊕ Task Nat) Nat :=
  { queues :=
      [(Queue.ofRing (.ofCapacity 1) ((Ring.empty 1).pushed 7)).withThreads .ofWords 4]
    programs :=
      [.inl (.drain 0 Route.own.front.waitPop none 0 []),
        .inl (.drain 0 (Route.shared .endpoint).front.waitPop none 0 []),
        .inr (.call 0 (Route.own.back.push 8) false),
        .inr (.call 0 Route.own.back.close false)] }

/-- The first consumer is woken by the producer, but the other one gets the element, and only
then the stream ends.
-/
def stolenAndClosed : List (Nat × Action) :=
  [(0, .begin), (0, .enter []), (0, .leave), (0, .begin), (0, .enter []), (0, .leave),
    (2, .begin), (2, .enter []), (1, .begin), (2, .leave), (1, .enter []), (1, .leave),
    (3, .begin), (3, .enter []), (1, .begin), (3, .leave), (0, .enter []), (0, .leave),
    (1, .enter []), (1, .leave)]

/-- Both have got one of the two elements that the queue has accepted. -/
theorem end_of_stream_stolen
    : let played := twoConsumers.play (Task.program.beside Task.program) stolenAndClosed
      let seen := fun thread => if thread = 0 then [7] else [8]
      played.2.programs[0]? = some (.inl (.finished (.drained 1 (seen 0))))
      ∧ played.2.programs[1]? = some (.inl (.finished (.drained 1 (seen 1))))
      ∧ ([0, 1].flatMap seen).Perm (accepted [7] (turnsAt played.1 0))
      ∧ StreamEnds (Task.program.beside Task.program) twoConsumers 0 [7] played.1 played.2 := by
  have opens : twoConsumers.Opens 0 [7] := ⟨8, .ofCapacity 1, _, _, rfl, rfl⟩
  have ends := end_of_stream opens (.of_play (Task.program.beside Task.program) twoConsumers
    stolenAndClosed)
  have shared :=
    @ends.shares [0, 1] (fun _ => 1) (fun thread => if thread = 0 then [7] else [8]) nofun
      (by decide) ?_ (by decide +kernel)
  · exact ⟨rfl, rfl, shared.2.1, ends⟩
  · intro thread member
    rcases List.mem_cons.mp member with rfl | member
    · exact ⟨⟨.own, none, rfl⟩, rfl⟩
    · obtain rfl := List.mem_singleton.mp member
      exact ⟨⟨.shared .endpoint, none, rfl⟩, rfl⟩

end World

end Conduit
