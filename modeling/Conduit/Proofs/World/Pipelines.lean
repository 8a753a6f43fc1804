import Conduit.Proofs.World.Stages

/-! Pipelines preserve the stream.
A stage that alone takes from its input and alone feeds its output makes the one stream into
the other, and a line of such stages does so from the first queue to the last one.
-/

namespace Conduit

variable {τ α : Type}

namespace World

-----------------------------------------------------------------------------------------
-- One stage
-----------------------------------------------------------------------------------------

/-- What a thread that works as stage `s` has made of its stream after a run. What it has
stored is made, in order, of the first elements that it has received, and once its output
has refused an element it has refused all the others. Nothing makes it stop before the end
of its input, unless the sink fails under it in the report of a poisoned lock. It comes back
when its input is exhausted, with as many elements counted as it has received, the refused
ones among them, and leaves a closed output. If it is the only one to take from its input it
has received all that this has ever accepted, and if it is the only one to push to its output
nothing else has been added there.
-/
structure StageRuns (start : World (Task α ⊕ τ) α) (s : Stage α) (thread : Nat)
    (values more : List α) (history : List (Happening α)) (w : World (Task α ⊕ τ) α)
    : Prop where
  order
    : ∃ front,
        front <+: handed history s.input thread
        ∧ storedIn history s.output thread = front.map s.transform
  refusals
    : ∃ stored refused pending last,
        handed history s.input thread = stored ++ refused ++ pending
        ∧ pending.length ≤ 1
        ∧ replies history s.output thread = s.outcomes stored refused ++ last
        ∧ (last = [] ∨ last = [.done] ∨ last = [.sinkFailed])
  ends
    : ∀ {report},
        w.programs[thread]? = some (.inl (.finished report))
        → (∃ count dropped, report = .staged count dropped) ∧ Ended history s.input
          ∨ report = .answered .sinkFailed
            ∧ (Ended history s.input
              ∨ Stumbled (turnsAt history s.input) thread
              ∨ Stumbled (turnsAt history s.output) thread)
  returns
    : ∀ {count dropped},
        w.programs[thread]? = some (.inl (.finished (.staged count dropped)))
        → (∃ queue,
            w.queues[s.input]? = some queue
            ∧ queue.Exhausted values (turnsAt history s.input))
          ∧ (∃ queue, w.queues[s.output]? = some queue ∧ queue.state.closed = true)
          ∧ ∃ stored refused,
            takenFrom history s.input thread = stored ++ refused
            ∧ storedIn history s.output thread = stored.map s.transform
            ∧ replies history s.output thread = s.outcomes stored refused ++ [.done]
            ∧ count = stored.length + refused.length
            ∧ dropped = refused.length
  consumes
    : ∀ {count dropped},
        w.programs[thread]? = some (.inl (.finished (.staged count dropped)))
        → (∀ exit ∈ Queue.takenBy (turnsAt history s.input), exit.1 = thread)
        → takenFrom history s.input thread = accepted values (turnsAt history s.input)
          ∧ count = (accepted values (turnsAt history s.input)).length
  feeds
    : (∀ entry ∈ Queue.storedBy (turnsAt history s.output), entry.1 = thread)
      → accepted more (turnsAt history s.output)
        = more ++ storedIn history s.output thread

section
variable {others : Program τ α} {start w : World (Task α ⊕ τ) α} {history : List (Happening α)}
  {s : Stage α} {thread : Nat} {values more : List α}

/-- What only one thread has moved is all that has been moved. -/
theorem moved_alone {moved : List (Nat × α)} (alone : ∀ one ∈ moved, one.1 = thread)
    : (moved.filter fun one => one.1 == thread).map Prod.snd = moved.map Prod.snd := by
  rw [List.filter_eq_self.mpr fun one member => beq_iff_eq.mpr (alone one member)]

theorem Run.stage_runs (run : Run (Task.program.beside others) start history w)
    (stages : start.Stages thread s values more)
    : StageRuns start s thread values more history w := by
  refine ⟨run.stored_prefix stages, ?refusals, ?ends, ?returns, ?consumes, ?feeds⟩
  case refusals =>
    obtain ⟨task, runs, forwards⟩ := run.forwards stages
    match task, forwards with
    | .stage _ _ _ .take, ⟨_, stored, refused, forwarded, received⟩
    | .stage _ _ _ .close, ⟨_, _, stored, refused, forwarded, received⟩ =>
      exact ⟨stored, refused, [], [], received.trans (List.append_nil _).symm, Nat.zero_le _,
        forwarded.answers, Or.inl rfl⟩
    | .stage _ _ _ (.give _), ⟨_, stored, refused, element, forwarded, received, _⟩ =>
      exact ⟨stored, refused, [element], [], received, Nat.le_refl _, forwarded.answers,
        Or.inl rfl⟩
    | .finished (.staged ..), ⟨_, stored, refused, forwarded, received⟩ =>
      exact ⟨stored, refused, [], [.done], received.trans (List.append_nil _).symm,
        Nat.zero_le _, forwarded.answers, Or.inr (Or.inl rfl)⟩
    | .finished (.answered .sinkFailed),
      ⟨_, _, stored, refused, pending, last, forwarded, received, few, tells, _⟩ =>
      exact ⟨stored, refused, pending, last, received, few, forwarded.answers,
        tells.imp_right Or.inr⟩
  case ends =>
    intro report through
    obtain ⟨task, runs, forwards⟩ := run.forwards stages
    obtain rfl := Sum.inl.inj (Option.some.inj (runs.symm.trans through))
    match report, forwards with
    | .staged count dropped, ⟨ended, _⟩ => exact Or.inl ⟨⟨count, dropped, rfl⟩, ended⟩
    | .answered .sinkFailed, ⟨_, _, _, _, _, _, _, _, _, _, cause⟩ =>
      exact Or.inr ⟨rfl, cause.imp_left And.left⟩
  case returns =>
    intro count dropped through
    obtain ⟨ended, closed, taken, told, stored, refused, forwarded, received⟩ :=
      run.staged stages through
    obtain ⟨queue, here, exhausted, _⟩ := run.exhausted stages.source ended
    exact ⟨⟨queue, here, exhausted⟩, closed, stored, refused, taken.trans received,
      told.trans forwarded.told, forwarded.answers, forwarded.counts, forwarded.drops⟩
  case consumes =>
    intro count dropped through alone
    obtain ⟨ended, _, taken, _, stored, refused, forwarded, received⟩ :=
      run.staged stages through
    obtain ⟨queue, here, exhausted, _⟩ := run.exhausted stages.source ended
    have all : takenFrom history s.input thread
        = accepted values (turnsAt history s.input) :=
      (moved_alone alone).trans exhausted.taken
    refine ⟨all, ?_⟩
    rw [← all, taken, received, forwarded.counts, List.length_append]
  case feeds =>
    intro alone
    rw [accepted, ← moved_alone alone]
    rfl

end

-----------------------------------------------------------------------------------------
-- A line of stages
-----------------------------------------------------------------------------------------

/-- A thread that works as a stage from a queue that nobody else takes from to one that has
nothing in it at first and that nobody else pushes to or closes.
-/
structure Link (start : World (Task α ⊕ τ) α) (thread : Nat) (s : Stage α) (values : List α)
    (history : List (Happening α)) : Prop where
  stages : start.Stages thread s values []
  takes : ∀ exit ∈ Queue.takenBy (turnsAt history s.input), exit.1 = thread
  stores : ∀ entry ∈ Queue.storedBy (turnsAt history s.output), entry.1 = thread
  closes : ClosedOnlyBy thread s.output history

/-- Stages that lead from queue `source` to queue `sink`, each in its own thread and each from
the output of the one before. The source has these values in it at first.
-/
def Line (start : World (Task α ⊕ τ) α) (history : List (Happening α)) (sink : Nat)
    : List (Nat × Stage α) → Nat → List α → Prop
  | [], source, _ => source = sink
  | (thread, s) :: rest, source, values =>
    s.input = source
    ∧ Link start thread s values history
    ∧ Line start history sink rest s.output []

/-- What a line of stages makes of an element. -/
def composite (stages : List (Nat × Stage α)) (value : α) : α :=
  stages.foldl (fun value link => link.2.transform value) value

/-- A stage of a line that has handed on everything: its input is closed and empty, it is
closing its output or has come back, and then with as many elements counted as there were, and
none refused.
-/
structure HandedOn (history : List (Happening α)) (w : World (Task α ⊕ τ) α) (thread : Nat)
    (s : Stage α) (total : Nat) : Prop where
  ended : Ended history s.input
  input
    : ∃ queue,
        w.queues[s.input]? = some queue
        ∧ queue.state.closed = true
        ∧ queue.state.ring.toList = []
  ending : ∃ task, w.programs[thread]? = some (.inl task) ∧ task.isEnding = true
  report
    : ∀ {count dropped},
        w.programs[thread]? = some (.inl (.finished (.staged count dropped)))
        → count = total ∧ dropped = 0

section
variable {others : Program τ α} {start w : World (Task α ⊕ τ) α} {history : List (Happening α)}
  {s : Stage α} {thread sink : Nat} {values : List α}

/-- Once the end of the stream has come out of a link, all that has gone into it has come
out.
-/
theorem Run.link (run : Run (Task.program.beside others) start history w)
    (link : Link start thread s values history) (ended : Ended history s.output)
    : HandedOn history w thread s (Queue.takenBy (turnsAt history s.output)).length
      ∧ (Queue.takenBy (turnsAt history s.output)).map Prod.snd
        = ((Queue.takenBy (turnsAt history s.input)).map Prod.snd).map s.transform := by
  have stages := link.stages
  obtain ⟨out, there, drained, known⟩ := run.exhausted stages.sink ended
  obtain ⟨task, runs, unrefused⟩ := run.unrefused stages link.closes
  obtain ⟨_, same, forwards⟩ := run.forwards stages
  obtain rfl := Sum.inl.inj (Option.some.inj (runs.symm.trans same))
  obtain ⟨ending, finished, passed⟩ := unrefused.spares.resolve_left fun isOpen => by
    cases (isOpen there).symm.trans known.meets.closed
  obtain ⟨input, here, exhausted, _⟩ := run.exhausted stages.source finished
  have told : storedIn history s.output thread = confirmed history s.output thread := by
    refine run.stored_told stages runs forwards ?_
    rintro _ _ _ _ rfl
    cases ending
  have taken : takenFrom history s.input thread = handed history s.input thread := by
    refine run.told_taken stages.source stages.starts runs fun asks same => ?_
    rcases forwards.asks stages.ends asks with ⟨goesOn, _⟩ | ⟨out, _⟩
    · cases goesOn.symm.trans ending
    · exact stages.ends.apart (same.symm.trans out)
  have gone
      : (Queue.takenBy (turnsAt history s.input)).map Prod.snd
        = handed history s.input thread :=
    (moved_alone link.takes).symm.trans taken
  have came
      : (Queue.takenBy (turnsAt history s.output)).map Prod.snd
        = (handed history s.input thread).map s.transform := by
    rw [drained.taken, accepted, List.nil_append, ← passed, ← told]
    exact (moved_alone link.stores).symm
  refine ⟨⟨finished, ⟨input, here, exhausted.closed, exhausted.empty⟩, ⟨task, runs, ending⟩,
    fun through => ?_⟩, by rw [came, gone]⟩
  obtain rfl := Sum.inl.inj (Option.some.inj (runs.symm.trans through))
  have total := congrArg List.length came
  rw [List.length_map, List.length_map] at total
  rw [total]
  exact forwards.counts unrefused.never

/-- The end of a line of stages whose source has been opened has been opened, too. -/
theorem Line.opens {stages : List (Nat × Stage α)} {source : Nat}
    (line : Line start history sink stages source values) (opens : start.Opens source values)
    : ∃ more, start.Opens sink more := by
  induction stages generalizing source values with
  | nil =>
    cases line
    exact ⟨values, opens⟩
  | cons first rest ih =>
    obtain ⟨_, link, line⟩ := line
    exact ih line link.stages.sink

/-- Once the end of the stream has come out of a line of stages, all that has gone into it has
come out; by induction on the stages.
-/
theorem Run.line (run : Run (Task.program.beside others) start history w)
    {stages : List (Nat × Stage α)} {source : Nat}
    (line : Line start history sink stages source values) (ended : Ended history sink)
    : Ended history source
      ∧ (Queue.takenBy (turnsAt history sink)).map Prod.snd
        = ((Queue.takenBy (turnsAt history source)).map Prod.snd).map (composite stages)
      ∧ ∀ {thread s},
        (thread, s) ∈ stages
        → HandedOn history w thread s (Queue.takenBy (turnsAt history sink)).length := by
  induction stages generalizing source values with
  | nil =>
    cases line
    exact ⟨ended, (List.map_id _).symm, nofun⟩
  | cons first rest ih =>
    obtain ⟨rfl, link, line⟩ := line
    obtain ⟨between, came, later⟩ := ih line
    obtain ⟨done, passed⟩ := run.link link between
    refine ⟨done.ended, ?_, fun member => ?_⟩
    · rw [came, passed, List.map_map]
      rfl
    · rcases List.mem_cons.mp member with same | other
      · have total := congrArg List.length came
        rw [List.length_map, List.length_map, List.length_map] at total
        obtain ⟨rfl, rfl⟩ := Prod.mk.inj same
        rw [total]
        exact done
      · exact later other

end

-----------------------------------------------------------------------------------------
-- Pipelines
-----------------------------------------------------------------------------------------

/-- What a consumer has got that takes everything from the end of a line of stages: what the
stages make of all the values that the source has ever accepted, in their order. By then all
queues are closed and empty, and all stages have handed on every element.
-/
structure Delivered (source sink : Nat) (stages : List (Nat × Stage α)) (values : List α)
    (history : List (Happening α)) (w : World (Task α ⊕ τ) α) (count : Nat) (seen : List α)
    : Prop where
  order : seen = (accepted values (turnsAt history source)).map (composite stages)
  total : count = (accepted values (turnsAt history source)).length
  start
    : ∃ queue,
        w.queues[source]? = some queue ∧ queue.Exhausted values (turnsAt history source)
  finish
    : ∃ queue,
        w.queues[sink]? = some queue
        ∧ queue.state.closed = true
        ∧ queue.state.ring.toList = []
  between : ∀ {thread s}, (thread, s) ∈ stages → HandedOn history w thread s count

/-- What becomes of the stream in a run: at each stage, whatever other programs do with its
queues, and from one end to the other of every line of stages whose queues are left to them.
-/
structure StreamPreserved (start : World (Task α ⊕ τ) α) (history : List (Happening α))
    (w : World (Task α ⊕ τ) α) : Prop where
  stage
    : ∀ {thread s values more},
        start.Stages thread s values more → StageRuns start s thread values more history w
  line
    : ∀ {source sink stages values consumer count seen},
        start.Opens source values
        → Line start history sink stages source values
        → start.Drains sink consumer
        → (∀ exit ∈ Queue.takenBy (turnsAt history sink), exit.1 = consumer)
        → w.programs[consumer]? = some (.inl (.finished (.drained count seen)))
        → Delivered source sink stages values history w count seen

/-- Pipelines preserve the stream, whatever runs beside them. -/
theorem pipelines_preserve {others : Program τ α} {start w : World (Task α ⊕ τ) α}
    {history : List (Happening α)} (run : Run (Task.program.beside others) start history w)
    : StreamPreserved start history w where
  stage := run.stage_runs
  line := by
    intro source sink stages values consumer count seen opens line drains alone through
    obtain ⟨more, last⟩ := line.opens opens
    obtain ⟨ended, counts, taken⟩ := run.drained last drains through
    obtain ⟨begun, came, between⟩ := run.line line ended
    obtain ⟨first, here, exhausted, _⟩ := run.exhausted opens begun
    obtain ⟨final, there, drained, _⟩ := run.exhausted last ended
    have got : seen = (Queue.takenBy (turnsAt history sink)).map Prod.snd :=
      taken.symm.trans (moved_alone alone)
    have order : seen = (accepted values (turnsAt history source)).map (composite stages) := by
      rw [got, came, exhausted.taken]
    refine ⟨order, ?_, ⟨first, here, exhausted⟩,
      ⟨final, there, drained.closed, drained.empty⟩, fun member => ?_⟩
    · rw [counts, order, List.length_map]
    · rw [counts, got, List.length_map]
      exact between member

/-- Adds ten to what comes out of the first queue. -/
def addsTen : Stage Nat :=
  { input := 0
    output := 1
    take := Route.own.front.waitPop
    give := Route.own.back.push
    close := Route.own.back.close
    transform := (· + 10) }

/-- Doubles what comes out of the second queue, of which it knows only the ends. -/
def doubles : Stage Nat :=
  { input := 1
    output := 2
    take := (Route.shared .own).front.waitPop
    give := (Route.minimal .endpoint).back.push
    close := (Route.minimal .endpoint).back.close
    transform := (2 * ·) }

/-- Two stages and a consumer at the end, with queues of one or two slots, and beside them
somebody who pushes to the first queue and somebody who closes it.
-/
def twoStages : World (Task Nat ⊕ Task Nat) Nat :=
  { queues :=
      [(Queue.ofRing (.ofCapacity 2) ((Ring.empty 2).pushed 1)).withThreads .ofWords 5,
        (Queue.ofRing (.ofCapacity 1) (Ring.empty 1)).withThreads .ofWords 5,
        (Queue.ofRing (.ofCapacity 1) (Ring.empty 1)).withThreads .ofWords 5]
    programs :=
      [.inl (.ofStage addsTen), .inl (.ofStage doubles),
        .inl (.drain 2 Route.endpoint.front.waitPop none 0 []),
        .inr (.call 0 (Route.own.back.push 5) false),
        .inr (.call 0 Route.own.back.close false)] }

/-- The consumer sleeps at first, the first stage sleeps at the full queue between, and the
first queue is closed while an element is still on its way.
-/
def throughBoth : List (Nat × Action) :=
  calls [2, 0, 0, 3, 0, 0, 4, 1, 1] ++ [(0, .enter []), (0, .leave)] ++ calls [0, 0]
  ++ [(2, .enter []), (2, .leave)] ++ calls [1, 1, 1, 1, 2, 2]

/-- Both elements come out in order, and both stages have counted them. -/
theorem pipelines_preserve_throughBoth
    : let played := twoStages.play (Task.program.beside Task.program) throughBoth
      played.2.programs[0]? = some (.inl (.finished (.staged 2 0)))
      ∧ played.2.programs[1]? = some (.inl (.finished (.staged 2 0)))
      ∧ played.2.programs[2]? = some (.inl (.finished (.drained 2 [22, 30])))
      ∧ Delivered 0 2 [(0, addsTen), (1, doubles)] [1] played.1 played.2 2 [22, 30] := by
  have first : twoStages.Opens 0 [1] := ⟨8, .ofCapacity 2, _, _, rfl, rfl⟩
  have second : twoStages.Opens 1 [] := ⟨8, .ofCapacity 1, _, _, rfl, rfl⟩
  have third : twoStages.Opens 2 [] := ⟨8, .ofCapacity 1, _, _, rfl, rfl⟩
  have drains : twoStages.Drains 2 2 := ⟨.endpoint, none, rfl⟩
  have through
      : (twoStages.play (Task.program.beside Task.program) throughBoth).2.programs[2]?
        = some (.inl (.finished (.drained 2 [22, 30]))) := rfl
  have alone
      : ∀ exit ∈ Queue.takenBy (turnsAt
            (twoStages.play (Task.program.beside Task.program) throughBoth).1 2),
          exit.1 = 2 := by decide +kernel
  have line
      : Line twoStages (twoStages.play (Task.program.beside Task.program) throughBoth).1 2
          [(0, addsTen), (1, doubles)] 0 [1] := by
    refine ⟨rfl, ⟨⟨⟨⟨.own, rfl⟩, ⟨.own, rfl⟩, ⟨.own, rfl⟩, nofun⟩, first, second, rfl⟩, ?_, ?_,
      ?_⟩, rfl, ⟨⟨⟨⟨.shared .own, rfl⟩, ⟨.minimal .endpoint, rfl⟩, ⟨.minimal .endpoint, rfl⟩,
      nofun⟩, second, third, rfl⟩, ?_, ?_, ?_⟩, rfl⟩
    all_goals decide +kernel
  exact ⟨rfl, rfl, through, (pipelines_preserve
    (.of_play _ twoStages throughBoth)).line first line drains alone through⟩

end World

end Conduit
