import Conduit.Proofs.World.Pipelines
import Conduit.Proofs.World.Shutdown

/-! Queues that lead from one thread to another.
What the receiver has taken, followed by what is buffered, is what the sender has stored, so
that each of the two knows from its own answers how far the other one has come.
-/

namespace Conduit

variable {σ α : Type}

namespace World

variable {p : Program σ α} {start w after : World σ α} {history : List (Happening α)}

-----------------------------------------------------------------------------------------
-- One thread among the others
-----------------------------------------------------------------------------------------

/-- What holds of a program at first, is kept by every step that gives it no answer and
follows for what it does with an answer, holds of it after every run.
-/
theorem Run.thread (run : Run p start history w) {thread : Nat} {first : σ}
    (starts : start.programs[thread]? = some first)
    {P : List (Happening α) → World σ α → σ → Prop} (holds : P [] start first)
    (kept
      : ∀ {history w program queue happening after mine},
          Run p start history w
          → P history w mine
          → w.Acts p program queue happening after
          → (happening.turn.thread = thread → happening.turn.progress.answer = none)
          → P (history ++ [happening]) after mine)
    (resumes
      : ∀ {history w program queue happening after answer},
          Run p start history w
          → P history w program
          → w.Acts p program queue happening after
          → Run p start (history ++ [happening]) after
          → happening.turn.thread = thread
          → happening.turn.progress.answer = some answer
          → P (history ++ [happening]) after (p.resume program answer))
    (waits
      : ∀ {history} {w : World σ α} {mine} tick, P history w mine → P history (w.wait tick) mine)
    : ∃ mine, w.programs[thread]? = some mine ∧ P history w mine := by
  refine run.grow (P := fun history w =>
    ∃ mine, w.programs[thread]? = some mine ∧ P history w mine) ?_ ?_ ?_
  · exact ⟨first, starts, holds⟩
  · intro history w program queue happening after before known acts next
    obtain ⟨mine, runs, holds⟩ := known
    by_cases own : happening.turn.thread = thread
    · cases answered : happening.turn.progress.answer with
      | none =>
        rw [acts.program_waits answered]
        exact ⟨mine, runs, kept before holds acts fun _ => answered⟩
      | some answer =>
        subst own
        obtain rfl := Option.some.inj (acts.runs.symm.trans runs)
        exact ⟨_, acts.program_resumes answered, resumes before holds acts next rfl answered⟩
    · rw [acts.program_other (Ne.symm own)]
      exact ⟨mine, runs, kept before holds acts fun same => absurd same own⟩
  · intro history w tick known
    obtain ⟨mine, runs, holds⟩ := known
    exact ⟨mine, runs, waits tick holds⟩

-----------------------------------------------------------------------------------------
-- Closed queues
-----------------------------------------------------------------------------------------

/-- Queue `k` counts as closed. -/
def ClosedAt (w : World σ α) (k : Nat) : Prop :=
  ∃ q, w.queues[k]? = some q ∧ q.fifo.closed = true

section
variable {program : σ} {queue : Queue α} {happening : Happening α} {values : List α}

/-- A closed queue stays closed. -/
theorem Run.closedAt (run : Run p start history w) {k : Nat} (opens : start.Opens k values)
    (acts : w.Acts p program queue happening after) (closed : w.ClosedAt k)
    : after.ClosedAt k := by
  obtain ⟨q, here, closed⟩ := closed
  by_cases same : happening.request.queue = k
  · subst same
    obtain rfl := Option.some.inj (acts.found.symm.trans here)
    have orderly := (run.known opens acts.found).orderly
    exact ⟨_, acts.queue_self, orderly.stable (.of_step? acts.made) Fifo.stable_closed closed⟩
  · exact ⟨q, (acts.queue_other (Ne.symm same)).trans here, closed⟩

/-- A queue is closed if somebody is told so there. -/
theorem Run.closedAt_of_told (run : Run p start history w)
    (opens : start.Opens happening.request.queue values)
    (acts : w.Acts p program queue happening after) {answer : Answer α}
    (answered : happening.turn.progress.answer = some answer)
    (told : answer.tellsClosed = true)
    : after.ClosedAt happening.request.queue := by
  obtain ⟨_, _, reply⟩ := run.reply opens acts (run.known opens acts.found) answered
  exact ⟨_, acts.queue_self, reply.closed_of_told told⟩

/-- A queue is closed once somebody has closed it, even if the sink has failed in the event.
-/
theorem Run.closedAt_of_close (run : Run p start history w)
    (opens : start.Opens happening.request.queue values)
    (acts : w.Acts p program queue happening after) {answer : Answer α}
    (answered : happening.turn.progress.answer = some answer)
    (closes : happening.request.operation = .close)
    : after.ClosedAt happening.request.queue := by
  obtain ⟨_, _, reply⟩ := run.reply opens acts (run.known opens acts.found) answered
  rw [closes] at reply
  exact ⟨_, acts.queue_self, reply.closed_close.1⟩

end

-----------------------------------------------------------------------------------------
-- Channels
-----------------------------------------------------------------------------------------

/-- In the course of a history `source` alone has offered values to queue `k`, and `sink`
alone has asked for them.
-/
structure Channel (history : List (Happening α)) (k source sink : Nat) : Prop where
  offers
    : ∀ happening ∈ history,
        happening.request.queue = k
        → happening.request.operation.offered? ≠ none
        → happening.turn.thread = source
  takes
    : ∀ happening ∈ history,
        happening.request.queue = k
        → happening.request.operation.pops = true
        → happening.turn.thread = sink

/-- Values are stored and taken in the calls that are there for it, by induction on the run.
-/
theorem Run.moves (run : Run p start history w) {k : Nat} {values : List α}
    (opens : start.Opens k values)
    : ∀ happening ∈ history,
        happening.request.queue = k
        → (happening.request.operation.offered? = none → happening.turn.stored = [])
          ∧ (happening.request.operation.pops = false → happening.turn.taken = []) := by
  refine run.induct (P := fun history _ =>
    ∀ happening ∈ history,
      happening.request.queue = k
      → (happening.request.operation.offered? = none → happening.turn.stored = [])
        ∧ (happening.request.operation.pops = false → happening.turn.taken = [])) ?_ ?_
    fun _ => id
  · intro happening member
    cases member
  · intro history w program queue newest after before known acts happening member here
    rcases List.mem_append.mp member with earlier | same
    · exact known happening earlier here
    · obtain rfl := List.mem_singleton.mp same
      subst here
      have orderly := (before.known opens acts.found).orderly
      refine ⟨fun offers => orderly.stores_unoffered acts.made fun found terms => ?_,
        fun keeps => orderly.takes_nothing acts.made fun found terms => ?_⟩
      · rw [(before.terms opens acts found terms).1]
        exact offers
      · rw [(before.terms opens acts found terms).1]
        exact keeps

/-- What only the steps of one thread move at a queue, that thread has moved. -/
theorem thread_of_moved {k thread : Nat} {moved : Turn α → List α}
    (alone
      : ∀ happening ∈ history,
          happening.request.queue = k
          → moved happening.turn ≠ []
          → happening.turn.thread = thread)
    : ∀ one ∈ (turnsAt history k).flatMap (fun turn => (moved turn).map (turn.thread, ·)),
        one.1 = thread := by
  intro one member
  obtain ⟨turn, passed, moves⟩ := List.mem_flatMap.mp member
  obtain ⟨value, among, rfl⟩ := List.mem_map.mp moves
  obtain ⟨happening, happened, here, rfl⟩ := mem_turnsAt.mp passed
  exact alone happening happened here (List.ne_nil_of_mem among)

section
variable {k source sink : Nat} {q : Queue α}

/-- What has come out of a channel, followed by what is in it, is what has gone into it. -/
theorem Run.flow (run : Run p start history w) (opens : start.Opens k [])
    (channel : Channel history k source sink) (here : w.queues[k]? = some q)
    : takenFrom history k sink ++ q.state.ring.toList = storedIn history k source := by
  have stores : ∀ entry ∈ Queue.storedBy (turnsAt history k), entry.1 = source := by
    refine thread_of_moved fun happening happened there moves => ?_
    refine channel.offers happening happened there fun nothing => ?_
    exact moves ((run.moves opens happening happened there).1 nothing)
  have takes : ∀ exit ∈ Queue.takenBy (turnsAt history k), exit.1 = sink := by
    refine thread_of_moved fun happening happened there moves => ?_
    refine channel.takes happening happened there (eq_true_of_ne_false fun keeps => ?_)
    exact moves ((run.moves opens happening happened there).2 keeps)
  obtain ⟨_, _, _, _, _, same, created, there, inner⟩ := run.opened opens
  obtain rfl := Option.some.inj (here.symm.trans there)
  have order := inner.order created
  rw [List.nil_append, ← moved_alone stores, ← moved_alone takes] at order
  exact order.symm

theorem Run.buffered_eq (run : Run p start history w) {values : List α}
    (opens : start.Opens k values) (here : w.queues[k]? = some q)
    : w.buffered k = q.state.ring.toList.length := by
  rw [Ring.length_toList (run.known opens here).orderly.sound.valid]
  simp [buffered, here]

/-- As many values are in a channel as have gone into it and not come out. -/
theorem Run.flow_length (run : Run p start history w) (opens : start.Opens k [])
    (channel : Channel history k source sink)
    : (takenFrom history k sink).length + w.buffered k
      = (storedIn history k source).length := by
  obtain ⟨q, here, _⟩ := run.queue_known opens
  rw [run.buffered_eq opens here, ← List.length_append, run.flow opens channel here]

/-- What a thread has been handed is the first part of what it has taken. -/
theorem Run.handed_isPrefix (run : Run p start history w) {values : List α}
    (opens : start.Opens k values) {thread : Nat} {first : σ}
    (starts : start.programs[thread]? = some first)
    : handed history k thread <+: takenFrom history k thread := by
  obtain ⟨_, _, here, found⟩ := run.place opens starts
  rw [(run.told opens here found).taken]
  exact List.prefix_append ..

/-- What the receiver has been handed is the first part of what the sender has stored. -/
theorem Run.received (run : Run p start history w) (opens : start.Opens k [])
    (channel : Channel history k source sink) {first : σ}
    (starts : start.programs[sink]? = some first)
    : handed history k sink <+: storedIn history k source := by
  obtain ⟨_, _, here, _⟩ := run.place opens starts
  rw [← run.flow opens channel here]
  exact (run.handed_isPrefix opens starts).trans (List.prefix_append ..)

/-- Once somebody has been told of the end, the receiver has been handed everything. -/
theorem Run.received_all (run : Run p start history w) (opens : start.Opens k [])
    (channel : Channel history k source sink) {first : σ}
    (starts : start.programs[sink]? = some first) (ended : Ended history k)
    : handed history k sink = storedIn history k source := by
  obtain ⟨turn, member, told⟩ := ended
  obtain ⟨q, phase, here, found⟩ := run.place opens starts
  obtain ⟨_, _, _, _, _, same, created, there, inner⟩ := run.opened opens
  obtain rfl := Option.some.inj (here.symm.trans there)
  have exhausted := inner.exhausted created member told
  rw [← run.flow opens channel here, (run.told opens here found).taken,
    exhausted.delivered found, exhausted.empty, List.append_nil, List.append_nil]

/-- What a thread has stored it has been told of, but for a value that it is just offering. -/
theorem Run.stored_offering (run : Run p start history w) {values : List α}
    (opens : start.Opens k values) {thread : Nat} {first program : σ}
    (starts : start.programs[thread]? = some first)
    (runs : w.programs[thread]? = some program)
    : storedIn history k thread
      <+: confirmed history k thread
        ++ ((p.request? program).bind fun request => request.operation.offered?).toList := by
  obtain ⟨_, phase, _, _, told, idle | ⟨request, _, asks, _, terms⟩⟩ :=
    run.told_by opens starts runs
  · rw [told.stored, idle]
    exact (List.prefix_append_right_inj _).mpr List.nil_prefix
  · rw [told.stored, phase.unreported_of_terms terms, asks, List.prefix_append_right_inj]
    split
    · exact List.prefix_rfl
    · exact List.nil_prefix

end

end World

end Conduit
