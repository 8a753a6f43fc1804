import Conduit.Proofs.World.EndOfStream

/-! What a stage of a pipeline does with the stream.
It hands on what it receives, one element after the other, up to the end of its input, and the
only thing that can come between is that its output is closed: from then on every element is
refused.
-/

namespace Conduit

variable {τ α : Type}

/-- A stage that works on the ends of two different queues, whatever the routes by which it
holds them.
-/
structure Stage.OnEnds (s : Stage α) : Prop where
  take : ∃ route : Route, s.take = route.front.waitPop
  give : ∃ route : Route, s.give = route.back.push
  close : ∃ route : Route, s.close = route.back.close
  apart : s.input ≠ s.output

namespace Stage.OnEnds

variable {s : Stage α}

theorem routed (ends : s.OnEnds) : s.Routed := ⟨ends.take, ends.give, ends.close⟩

/-- Such a stage goes on with the answers of the queues themselves. -/
theorem resume_take (ends : s.OnEnds) (count dropped : Nat) (answer : Answer α)
    : (Task.stage s count dropped .take).resume answer
      = Task.resumeStage s count dropped .take answer := by
  rw [Task.resume, ends.routed.take_eq]
  rfl

theorem resume_give (ends : s.OnEnds) (count dropped : Nat) (value : α) (answer : Answer α)
    : (Task.stage s count dropped (.give value)).resume answer
      = Task.resumeStage s count dropped (.give value) answer.asOffered := by
  rw [Task.resume, ends.routed.give_eq]

theorem resume_close (ends : s.OnEnds) (count dropped : Nat) (answer : Answer α)
    : (Task.stage s count dropped .close).resume answer
      = Task.resumeStage s count dropped .close answer := by
  rw [Task.resume, ends.routed.close_eq]
  rfl

end Stage.OnEnds

/-- Whether a task closes its output just now, or has come to its end. -/
def Task.isEnding : Task α → Bool
  | .stage _ _ _ .close | .finished _ => true
  | _ => false

theorem Task.isEnding_resume {task : Task α} (ending : task.isEnding = true)
    (answer : Answer α)
    : (task.resume answer).isEnding = true := by
  match task, ending with
  | .finished _, _ => rfl
  | .stage s _ _ .close, _ =>
    change (resumeStage s _ _ .close (s.close.read answer)).isEnding = true
    cases s.close.read answer with
    | pop result | offered result => cases result <;> rfl
    | _ => rfl

/-- The answers to the pushes of a stage of which the first ones were stored and the others
were refused by a closed queue.
-/
def Stage.outcomes (s : Stage α) (stored refused : List α) : List (Answer α) :=
  stored.map (fun _ => .push (.ok ()))
  ++ refused.map fun value => .push (.error (.closed (s.transform value)))

theorem Stage.outcomes_stored (s : Stage α) (stored : List α) (value : α)
    : s.outcomes (stored ++ [value]) [] = s.outcomes stored [] ++ [.push (.ok ())] := by
  simp [outcomes]

theorem Stage.outcomes_refused (s : Stage α) (stored refused : List α) (value : α)
    : s.outcomes stored (refused ++ [value])
      = s.outcomes stored refused ++ [.push (.error (.closed (s.transform value)))] := by
  simp [outcomes]

/-- Nothing is stored by a call to close a queue. -/
theorem Answer.accepted_of_close (answer : Answer α)
    : answer.accepted .close = [] := by
  unfold accepted
  split <;> rfl

namespace World

-----------------------------------------------------------------------------------------
-- What a stage has done so far
-----------------------------------------------------------------------------------------

/-- What a stage has counted and what it has been told by its output: the elements that it is
through with have been stored there first, and refused from some point on. The answers to the
close, if it has been made, come last.
-/
structure Forwarded (s : Stage α) (thread : Nat) (history : List (Happening α))
    (count dropped : Nat) (stored refused : List α) (last : List (Answer α))
    : Prop where
  counts : count = stored.length + refused.length
  drops : dropped = refused.length
  told : confirmed history s.output thread = stored.map s.transform
  answers : replies history s.output thread = s.outcomes stored refused ++ last

/-- What a stage has done when the log sink has failed under it: it was through with all that it
has been handed, but for an element that it was just giving on. It was closing its output at
the end of its input, or it has stumbled over the poisoned lock of one of them.
-/
def Halted (s : Stage α) (thread : Nat) (history : List (Happening α)) : Prop :=
  ∃ count dropped stored refused pending last,
    Forwarded s thread history count dropped stored refused last
    ∧ handed history s.input thread = stored ++ refused ++ pending
    ∧ pending.length ≤ 1
    ∧ (last = [] ∨ last = [.sinkFailed])
    ∧ (Ended history s.input ∧ pending = []
      ∨ Stumbled (turnsAt history s.input) thread
      ∨ Stumbled (turnsAt history s.output) thread)

/-- What a stage knows at each point of its way: it has been through with all that it has
been handed, but for an element that it is just giving on, and it closes its output when it
has been told of the end of the stream. A failure of the log sink ends it early.
-/
def Forwards (s : Stage α) (thread : Nat) (history : List (Happening α)) : Task α → Prop
  | .stage stage count dropped .take =>
    stage = s
    ∧ ∃ stored refused,
      Forwarded s thread history count dropped stored refused []
      ∧ handed history s.input thread = stored ++ refused
  | .stage stage count dropped (.give value) =>
    stage = s
    ∧ ∃ stored refused element,
      Forwarded s thread history count dropped stored refused []
      ∧ handed history s.input thread = stored ++ refused ++ [element]
      ∧ value = s.transform element
  | .stage stage count dropped .close =>
    stage = s
    ∧ Ended history s.input
    ∧ ∃ stored refused,
      Forwarded s thread history count dropped stored refused []
      ∧ handed history s.input thread = stored ++ refused
  | .finished (.staged count dropped) =>
    Ended history s.input
    ∧ ∃ stored refused,
      Forwarded s thread history count dropped stored refused [.done]
      ∧ handed history s.input thread = stored ++ refused
  | .finished (.answered .sinkFailed) => Halted s thread history
  | _ => False

section
variable {s : Stage α} {thread : Nat} {history : List (Happening α)} {task : Task α}
  {happening : Happening α}

/-- The calls that a stage makes. -/
theorem Forwards.asks (forwards : Forwards s thread history task) (ends : s.OnEnds)
    {request : Request α} (asks : task.request? = some request)
    : task.isEnding = false
        ∧ request.queue = s.input
        ∧ request.operation = .waitPop .infinite
      ∨ request.queue = s.output
        ∧ (task.isEnding = false ∧ (∃ value, request.operation = .waitPush value .infinite)
          ∨ task.isEnding = true ∧ request.operation = .close) := by
  match task, forwards with
  | .finished _, _ => cases asks
  | .stage _ _ _ .take, ⟨rfl, _⟩ =>
    obtain rfl := Option.some.inj asks
    exact Or.inl ⟨rfl, rfl, congrArg Method.operation ends.routed.take_eq⟩
  | .stage _ _ _ (.give value), ⟨rfl, _⟩ =>
    obtain rfl := Option.some.inj asks
    have gives := congrArg Method.operation (ends.routed.give_eq value)
    exact Or.inr ⟨rfl, Or.inl ⟨rfl, value, gives⟩⟩
  | .stage _ _ _ .close, ⟨rfl, _⟩ =>
    obtain rfl := Option.some.inj asks
    exact Or.inr ⟨rfl, Or.inr ⟨rfl, congrArg Method.operation ends.routed.close_eq⟩⟩

/-- A stage that is not at its end does nothing to its output but push, for as long as it
takes.
-/
theorem Forwards.gentle (forwards : Forwards s thread history task) (ends : s.OnEnds)
    (goesOn : task.isEnding = false) {request : Request α}
    (asks : task.request? = some request) (here : request.queue = s.output)
    : request.operation.isClose = false ∧ request.operation.timeout = .infinite := by
  rcases forwards.asks ends asks with ⟨_, there, _⟩ | ⟨_, ⟨_, value, pushes⟩ | ⟨ending, _⟩⟩
  · exact absurd (there.symm.trans here) ends.apart
  · rw [pushes]
    exact ⟨rfl, rfl⟩
  · cases goesOn.symm.trans ending

/-- A step in which a stage is told nothing by its output. -/
theorem Forwarded.kept {count dropped : Nat} {stored refused : List α}
    {last : List (Answer α)}
    (forwarded : Forwarded s thread history count dropped stored refused last)
    (quiet
      : happening.request.queue = s.output
        → happening.turn.thread = thread
        → happening.turn.progress.answer = none)
    : Forwarded s thread (history ++ [happening]) count dropped stored refused last := by
  obtain ⟨_, confirms, replies⟩ := learns_nothing history happening s.output thread quiet
  exact ⟨forwarded.counts, forwarded.drops, confirms.trans forwarded.told,
    replies.trans forwarded.answers⟩

theorem Forwards.kept (forwards : Forwards s thread history task)
    (quiet : happening.turn.thread = thread → happening.turn.progress.answer = none)
    : Forwards s thread (history ++ [happening]) task := by
  have same := (learns_nothing history happening s.input thread fun _ => quiet).1
  match task, forwards with
  | .stage _ _ _ .take, ⟨rfl, stored, refused, forwarded, received⟩ =>
    exact ⟨rfl, stored, refused, forwarded.kept fun _ => quiet, same.trans received⟩
  | .stage _ _ _ (.give _), ⟨rfl, stored, refused, element, forwarded, received, made⟩ =>
    exact ⟨rfl, stored, refused, element, forwarded.kept fun _ => quiet,
      same.trans received, made⟩
  | .stage _ _ _ .close, ⟨rfl, ended, stored, refused, forwarded, received⟩ =>
    exact ⟨rfl, ended.step happening, stored, refused, forwarded.kept fun _ => quiet,
      same.trans received⟩
  | .finished (.staged ..), ⟨ended, stored, refused, forwarded, received⟩ =>
    exact ⟨ended.step happening, stored, refused, forwarded.kept fun _ => quiet,
      same.trans received⟩
  | .finished (.answered .sinkFailed),
    ⟨count, dropped, stored, refused, pending, last, forwarded, received, few, tells, cause⟩ =>
    refine ⟨count, dropped, stored, refused, pending, last, forwarded.kept fun _ => quiet,
      same.trans received, few, tells, ?_⟩
    rcases cause with ⟨ended, none⟩ | stumbled | stumbled
    · exact Or.inl ⟨ended.step happening, none⟩
    · exact Or.inr (Or.inl (stumbled_turnsAt_step stumbled happening))
    · exact Or.inr (Or.inr (stumbled_turnsAt_step stumbled happening))

/-- The output has stored an element, none having been refused before. -/
theorem Forwarded.stores {count dropped : Nat} {stored : List α} {element : α}
    (forwarded : Forwarded s thread history count dropped stored [] [])
    (here : happening.request.queue = s.output) (own : happening.turn.thread = thread)
    {timeout : Timeout}
    (pushes : happening.request.operation = .waitPush (s.transform element) timeout)
    (answered : happening.turn.progress.answer = some (.push (.ok ())))
    : Forwarded s thread (history ++ [happening]) (count + 1) dropped (stored ++ [element]) []
        [] := by
  obtain ⟨_, confirms, replies⟩ := learns history here own answered
  refine ⟨?_, forwarded.drops, ?_, ?_⟩
  · rw [forwarded.counts, List.length_append]
    rfl
  · rw [confirms, forwarded.told, pushes, List.map_append]
    rfl
  · rw [replies, forwarded.answers, s.outcomes_stored, List.append_nil, List.append_nil]

/-- The output has refused an element. -/
theorem Forwarded.refuses {count dropped : Nat} {stored refused : List α} {element : α}
    (forwarded : Forwarded s thread history count dropped stored refused [])
    (here : happening.request.queue = s.output) (own : happening.turn.thread = thread)
    (answered
      : happening.turn.progress.answer
        = some (.push (.error (.closed (s.transform element)))))
    : Forwarded s thread (history ++ [happening]) (count + 1) (dropped + 1) stored
        (refused ++ [element]) [] := by
  obtain ⟨_, confirms, replies⟩ := learns history here own answered
  refine ⟨?_, ?_, ?_, ?_⟩
  · rw [forwarded.counts, List.length_append]
    rfl
  · rw [forwarded.drops, List.length_append]
    rfl
  · rw [confirms, forwarded.told, Queue.accepted_of_refused rfl, List.append_nil]
  · rw [replies, forwarded.answers, s.outcomes_refused, List.append_nil, List.append_nil]

/-- Every element that has been refused has been answered so. -/
theorem Forwarded.refused_mem {count dropped : Nat} {stored refused : List α}
    {last : List (Answer α)}
    (forwarded : Forwarded s thread history count dropped stored refused last) {element : α}
    (member : element ∈ refused)
    : .push (.error (.closed (s.transform element))) ∈ replies history s.output thread := by
  rw [forwarded.answers]
  exact List.mem_append_left _
    (List.mem_append_right _ (List.mem_map.mpr ⟨element, member, rfl⟩))

/-- The output has answered the close, or the sink has failed under a call there. -/
theorem Forwarded.closes {count dropped : Nat} {stored refused : List α}
    (forwarded : Forwarded s thread history count dropped stored refused [])
    (here : happening.request.queue = s.output) (own : happening.turn.thread = thread)
    {answer : Answer α} (answered : happening.turn.progress.answer = some answer)
    (nothing : answer.accepted happening.request.operation = [])
    : Forwarded s thread (history ++ [happening]) count dropped stored refused [answer] := by
  obtain ⟨_, confirms, replies⟩ := learns history here own answered
  refine ⟨forwarded.counts, forwarded.drops, ?_, ?_⟩
  · rw [confirms, forwarded.told, nothing, List.append_nil]
  · rw [replies, forwarded.answers, List.append_nil]

/-- A stage that takes tells an element from the end of its input. -/
theorem Forwarded.resume_take {count dropped : Nat} {stored refused : List α}
    (forwarded : Forwarded s thread history count dropped stored refused [])
    (received : handed history s.input thread = stored ++ refused) (ends : s.OnEnds)
    (here : happening.request.queue = s.input) (own : happening.turn.thread = thread)
    {answer : Answer α} (answered : happening.turn.progress.answer = some answer)
    (pops
      : (∃ value, answer = .pop (.ok value))
        ∨ answer = .pop (.error .closed)
        ∨ answer = .sinkFailed ∧ Stumbled (turnsAt history s.input) thread)
    : Forwards s thread (history ++ [happening])
        ((Task.stage s count dropped .take).resume answer) := by
  have still : Forwarded s thread (history ++ [happening]) count dropped stored refused [] :=
    forwarded.kept fun there => absurd (here.symm.trans there) ends.apart
  have more := (learns history here own answered).1
  rw [received] at more
  rw [ends.resume_take]
  rcases pops with ⟨value, rfl⟩ | rfl | ⟨rfl, stumbled⟩
  · exact ⟨rfl, stored, refused, value, still, more, rfl⟩
  · exact ⟨rfl, ⟨_, newest_mem_turnsAt history here, answered⟩, stored, refused, still,
      more.trans (List.append_nil _)⟩
  · exact ⟨count, dropped, stored, refused, [], [], still, more, Nat.zero_le _, Or.inl rfl,
      Or.inr (Or.inl (stumbled_turnsAt_step stumbled happening))⟩

/-- A stage that gives an element on has it stored, if none has been refused before, or
refused.
-/
theorem Forwarded.resume_give {count dropped : Nat} {stored refused : List α} {element : α}
    (forwarded : Forwarded s thread history count dropped stored refused [])
    (received : handed history s.input thread = stored ++ refused ++ [element])
    (ends : s.OnEnds) (here : happening.request.queue = s.output)
    (own : happening.turn.thread = thread)
    (pushes
      : happening.request.operation = .waitPush (s.transform element) .infinite)
    {answer : Answer α} (answered : happening.turn.progress.answer = some answer)
    (ended
      : answer = .push (.error (.closed (s.transform element)))
        ∨ (answer = .push (.ok ())
          ∧ ∀ other, .push (.error (.closed other)) ∉ replies history s.output thread)
        ∨ answer = .sinkFailed ∧ Stumbled (turnsAt history s.output) thread)
    : Forwards s thread (history ++ [happening])
        ((Task.stage s count dropped (.give (s.transform element))).resume answer) := by
  have same := (learns_nothing history happening s.input thread fun there =>
    absurd (there.symm.trans here) ends.apart).1
  rw [received] at same
  rw [ends.resume_give]
  rcases ended with rfl | ⟨rfl, never⟩ | ⟨rfl, stumbled⟩
  · exact ⟨rfl, stored, refused ++ [element], forwarded.refuses here own answered,
      same.trans (List.append_assoc ..)⟩
  · have none : refused = [] :=
      List.eq_nil_iff_forall_not_mem.mpr fun other member =>
        never (s.transform other) (forwarded.refused_mem member)
    subst none
    refine ⟨rfl, stored ++ [element], [], forwarded.stores here own pushes answered, ?_⟩
    rw [same, List.append_nil, List.append_nil]
  · exact ⟨count, dropped, stored, refused, [element], [.sinkFailed],
      forwarded.closes here own answered (Queue.accepted_of_refused rfl _), same, Nat.le_refl _,
      Or.inr rfl, Or.inr (Or.inr (stumbled_turnsAt_step stumbled happening))⟩

/-- A stage that closes its output is through, unless the sink fails. -/
theorem Forwarded.resume_close {count dropped : Nat} {stored refused : List α}
    (forwarded : Forwarded s thread history count dropped stored refused [])
    (received : handed history s.input thread = stored ++ refused)
    (ended : Ended history s.input) (ends : s.OnEnds)
    (here : happening.request.queue = s.output) (own : happening.turn.thread = thread)
    (closes : happening.request.operation = .close) {answer : Answer α}
    (answered : happening.turn.progress.answer = some answer)
    (closed : answer = .done ∨ answer = .sinkFailed)
    : Forwards s thread (history ++ [happening])
        ((Task.stage s count dropped .close).resume answer) := by
  have same := (learns_nothing history happening s.input thread fun there =>
    absurd (there.symm.trans here) ends.apart).1
  rw [received] at same
  have told := forwarded.closes here own answered (closes ▸ answer.accepted_of_close)
  rw [ends.resume_close]
  rcases closed with rfl | rfl
  · exact ⟨ended.step happening, stored, refused, told, same⟩
  · exact ⟨count, dropped, stored, refused, [], [.sinkFailed], told,
      same.trans (List.append_nil _).symm, Nat.zero_le _, Or.inr rfl,
      Or.inl ⟨ended.step happening, rfl⟩⟩

/-- What a stage does with an answer. It tells its elements from the end of its input, and
once its output has refused one it refuses them all.
-/
theorem Forwards.resume (forwards : Forwards s thread history task) (ends : s.OnEnds)
    (asks : task.request? = some happening.request) (own : happening.turn.thread = thread)
    {answer : Answer α} (answered : happening.turn.progress.answer = some answer)
    (pops
      : happening.request.operation = .waitPop .infinite
        → (∃ value, answer = .pop (.ok value))
          ∨ answer = .pop (.error .closed)
          ∨ answer = .sinkFailed
            ∧ Stumbled (turnsAt history happening.request.queue) thread)
    (pushes
      : ∀ {value},
          happening.request.operation = .waitPush value .infinite
          → answer = .push (.error (.closed value))
            ∨ (answer = .push (.ok ())
              ∧ ∀ other,
                .push (.error (.closed other))
                ∉ replies history happening.request.queue thread)
            ∨ answer = .sinkFailed
              ∧ Stumbled (turnsAt history happening.request.queue) thread)
    (closes : happening.request.operation = .close → answer = .done ∨ answer = .sinkFailed)
    : Forwards s thread (history ++ [happening]) (task.resume answer) := by
  have request {other : Request α} (wants : task.request? = some other)
      : happening.request.queue = other.queue
        ∧ happening.request.operation = other.operation :=
    have same := Option.some.inj (asks.symm.trans wants)
    ⟨congrArg Request.queue same, congrArg Request.operation same⟩
  match task, forwards with
  | .finished _, _ => cases asks
  | .stage _ count dropped .take, ⟨rfl, stored, refused, forwarded, received⟩ =>
    obtain ⟨here, operation⟩ := request rfl
    simp only at here operation
    rw [ends.routed.take_eq] at operation
    rw [here] at pops
    exact forwarded.resume_take received ends here own answered (pops operation)
  | .stage _ count dropped (.give value),
    ⟨rfl, stored, refused, element, forwarded, received, made⟩ =>
    subst made
    obtain ⟨here, operation⟩ := request rfl
    simp only at here operation
    rw [ends.routed.give_eq] at operation
    rw [here] at pushes
    exact forwarded.resume_give received ends here own operation answered (pushes operation)
  | .stage _ count dropped .close, ⟨rfl, ended, stored, refused, forwarded, received⟩ =>
    obtain ⟨here, operation⟩ := request rfl
    simp only at here operation
    rw [ends.routed.close_eq] at operation
    exact forwarded.resume_close received ended ends here own operation answered
      (closes operation)

/-- A stage has come to the end of its input, and has handed on all that it has received. -/
structure Done (s : Stage α) (thread : Nat) (history : List (Happening α)) : Prop where
  ended : Ended history s.input
  passed
    : confirmed history s.output thread = (handed history s.input thread).map s.transform

theorem Done.kept (done : Done s thread history)
    (taken
      : handed (history ++ [happening]) s.input thread = handed history s.input thread)
    (told
      : confirmed (history ++ [happening]) s.output thread
        = confirmed history s.output thread)
    : Done s thread (history ++ [happening]) :=
  ⟨done.ended.step happening, by rw [told, taken, done.passed]⟩

/-- Where nothing has been refused, nothing is counted as refused. -/
theorem Forwarded.unrefused {count dropped : Nat} {stored refused : List α}
    {last : List (Answer α)}
    (forwarded : Forwarded s thread history count dropped stored refused last)
    (never : ∀ value, .push (.error (.closed value)) ∉ replies history s.output thread)
    : refused = [] :=
  List.eq_nil_iff_forall_not_mem.mpr fun _ member => never _ (forwarded.refused_mem member)

/-- A stage that closes its output and has been refused nothing has handed on all that it has
received.
-/
theorem Forwards.done (forwards : Forwards s thread history task) (ends : s.OnEnds)
    (ending : task.isEnding = true) {request : Request α}
    (asks : task.request? = some request)
    (never : ∀ value, .push (.error (.closed value)) ∉ replies history s.output thread)
    : Done s thread history ∧ request.queue = s.output ∧ request.operation = .close := by
  match task, forwards with
  | .finished _, _ => cases asks
  | .stage _ _ _ .close, ⟨rfl, ended, stored, refused, forwarded, received⟩ =>
    obtain rfl := Option.some.inj asks
    obtain rfl := forwarded.unrefused never
    rw [List.append_nil] at received
    exact ⟨⟨ended, by rw [received, forwarded.told]⟩, rfl,
      congrArg Method.operation ends.routed.close_eq⟩

/-- A stage that has come back and has been refused nothing has counted all that it has
received.
-/
theorem Forwards.counts {count dropped : Nat}
    (forwards : Forwards s thread history (.finished (.staged count dropped)))
    (never : ∀ value, .push (.error (.closed value)) ∉ replies history s.output thread)
    : count = (handed history s.input thread).length ∧ dropped = 0 := by
  obtain ⟨ended, stored, refused, forwarded, received⟩ := forwards
  obtain rfl := forwarded.unrefused never
  rw [List.append_nil] at received
  exact ⟨forwarded.counts.trans (congrArg List.length received.symm), forwarded.drops⟩

end

-----------------------------------------------------------------------------------------
-- A stage in any run
-----------------------------------------------------------------------------------------

/-- A thread is about to work as the given stage, on two queues that have just been created
with these values.
-/
structure Stages (start : World (Task α ⊕ τ) α) (thread : Nat) (s : Stage α)
    (values more : List α) : Prop where
  ends : s.OnEnds
  source : start.Opens s.input values
  sink : start.Opens s.output more
  starts : start.programs[thread]? = some (.inl (.ofStage s))

section
variable {others : Program τ α} {start w : World (Task α ⊕ τ) α} {history : List (Happening α)}
  {s : Stage α} {thread : Nat} {values more : List α}

/-- A queue that has refused somebody a push is closed for whoever meets it. -/
theorem Run.refused {σ : Type} {p : Program σ α} {start w : World σ α}
    (run : Run p start history w) {k : Nat} (opens : start.Opens k values) {queue : Queue α}
    (here : w.queues[k]? = some queue) {value : α}
    (refused : .push (.error (.closed value)) ∈ replies history k thread)
    : ∃ elements, queue.Known (Fifo.Ending elements) := by
  obtain ⟨turn, member, tells⟩ := turn_of_replies refused
  obtain ⟨_, _, _, _, _, q, created, there, inner⟩ := run.opened opens
  obtain rfl := Option.some.inj (here.symm.trans there)
  exact inner.refused created member tells

/-- What a stage has done so far, in any run. -/
theorem Run.forwards (run : Run (Task.program.beside others) start history w)
    (stages : start.Stages thread s values more)
    : ∃ task, w.programs[thread]? = some (.inl task) ∧ Forwards s thread history task := by
  refine run.task stages.starts (P := fun history _ => Forwards s thread history) ?_ ?_ ?_
    fun _ => id
  · exact ⟨rfl, [], [], ⟨rfl, rfl, rfl, rfl⟩, rfl⟩
  · exact fun _ forwards _ _ quiet => forwards.kept quiet
  · intro history w queue happening after task answer before forwards asks acts own answered
    have opens : ∃ values, start.Opens happening.request.queue values := by
      rcases forwards.asks stages.ends asks with ⟨_, here, _⟩ | ⟨here, _⟩
      · exact ⟨values, here ▸ stages.source⟩
      · exact ⟨more, here ▸ stages.sink⟩
    obtain ⟨_, opens⟩ := opens
    subst own
    refine forwards.resume stages.ends asks rfl answered
      (before.waitPop_cases opens acts answered) (fun pushes => ?_)
      (before.close_cases opens acts answered)
    rcases before.waitPush_cases opens acts answered pushes with stored | refused | lost
    · refine Or.inr (Or.inl ⟨stored, fun other refused => ?_⟩)
      obtain ⟨elements, known⟩ := before.refused opens acts.found refused
      have accepts := (known.quiet (.of_step? acts.made)).2.2 answer answered
      rw [stored] at accepts
      cases accepts
    · exact Or.inl refused
    · exact Or.inr (Or.inr lost)

/-- A stage that gives no element on has been told of all that it has stored. -/
theorem Run.stored_told (run : Run (Task.program.beside others) start history w)
    (stages : start.Stages thread s values more) {task : Task α}
    (runs : w.programs[thread]? = some (.inl task)) (forwards : Forwards s thread history task)
    (between : ∀ stage count dropped value, task ≠ .stage stage count dropped (.give value))
    : storedIn history s.output thread = confirmed history s.output thread := by
  refine run.told_stored stages.sink stages.starts runs fun asks there => ?_
  match task, forwards with
  | .finished _, _ => cases asks
  | .stage _ _ _ .take, ⟨rfl, _⟩ =>
    obtain rfl := Option.some.inj asks
    exact absurd there stages.ends.apart
  | .stage _ _ _ (.give _), _ => exact (between _ _ _ _ rfl).elim
  | .stage _ _ _ .close, ⟨rfl, _⟩ =>
    obtain rfl := Option.some.inj asks
    rw [stages.ends.routed.close_eq]
    rfl

/-- A stage that gives an element on may have stored it already, but not once its output has
refused it one.
-/
theorem Run.unreported (run : Run (Task.program.beside others) start history w)
    (stages : start.Stages thread s values more) {count dropped : Nat} {value : α}
    {stored refused : List α} {last : List (Answer α)}
    (runs : w.programs[thread]? = some (.inl (.stage s count dropped (.give value))))
    (forwarded : Forwarded s thread history count dropped stored refused last)
    : ∃ pending,
        storedIn history s.output thread = confirmed history s.output thread ++ pending
        ∧ (pending = [] ∨ refused = [] ∧ pending = [value]) := by
  obtain ⟨queue, phase, here, found, moved, place⟩ :=
    run.told_by stages.sink stages.starts runs
  refine ⟨phase.unreported, moved.stored, ?_⟩
  rcases place with idle | ⟨request, deadline, asks, _, terms⟩
  · rw [idle]
    exact Or.inl rfl
  · obtain rfl := Option.some.inj asks
    have offered := phase.unreported_of_terms terms
    rw [stages.ends.routed.give_eq] at offered
    cases accepting : phase.isAccepting with
    | false =>
      rw [accepting] at offered
      exact Or.inl offered
    | true =>
      rw [accepting] at offered
      refine Or.inr ⟨List.eq_nil_iff_forall_not_mem.mpr fun other member => ?_, offered⟩
      obtain ⟨elements, known⟩ :=
        run.refused stages.sink here (forwarded.refused_mem member)
      cases offered.symm.trans (known.nothing_unreported found)

/-- What a stage has stored is, in order, made of the first elements that it has received. -/
theorem Run.stored_prefix (run : Run (Task.program.beside others) start history w)
    (stages : start.Stages thread s values more)
    : ∃ front,
        front <+: handed history s.input thread
        ∧ storedIn history s.output thread = front.map s.transform := by
  obtain ⟨task, runs, forwards⟩ := run.forwards stages
  have told := run.stored_told stages runs forwards
  match task, forwards with
  | .stage _ _ _ .take, ⟨_, stored, refused, forwarded, received⟩
  | .stage _ _ _ .close, ⟨_, _, stored, refused, forwarded, received⟩
  | .finished (.staged ..), ⟨_, stored, refused, forwarded, received⟩ =>
    refine ⟨stored, ?_, (told ?_).trans forwarded.told⟩
    · rw [received]
      exact List.prefix_append ..
    · intro _ _ _ _ same
      cases same
  | .finished (.answered .sinkFailed), ⟨_, _, stored, _, _, _, forwarded, received, _⟩ =>
    refine ⟨stored, ?_, (told nofun).trans forwarded.told⟩
    rw [received, List.append_assoc]
    exact List.prefix_append ..
  | .stage _ _ _ (.give value), ⟨rfl, stored, refused, element, forwarded, received, made⟩ =>
    obtain ⟨pending, kept, none | ⟨rfl, one⟩⟩ := run.unreported stages runs forwarded
    · refine ⟨stored, ?_, by rw [kept, none, List.append_nil, forwarded.told]⟩
      rw [received, List.append_assoc]
      exact List.prefix_append ..
    · have all : handed history s.input thread = stored ++ [element] := by
        rw [received, List.append_nil]
      refine ⟨stored ++ [element], ⟨[], (List.append_nil _).trans all.symm⟩, ?_⟩
      rw [kept, one, made, forwarded.told, List.map_append]
      rfl

/-- What a stage has found and left when it has come back. -/
theorem Run.staged (run : Run (Task.program.beside others) start history w)
    (stages : start.Stages thread s values more) {count dropped : Nat}
    (through : w.programs[thread]? = some (.inl (.finished (.staged count dropped))))
    : Ended history s.input
      ∧ (∃ queue, w.queues[s.output]? = some queue ∧ queue.state.closed = true)
      ∧ takenFrom history s.input thread = handed history s.input thread
      ∧ storedIn history s.output thread = confirmed history s.output thread
      ∧ ∃ stored refused,
        Forwarded s thread history count dropped stored refused [.done]
        ∧ handed history s.input thread = stored ++ refused := by
  obtain ⟨task, runs, forwards⟩ := run.forwards stages
  obtain rfl := Sum.inl.inj (Option.some.inj (runs.symm.trans through))
  have told := run.stored_told stages runs forwards nofun
  have taken := run.told_taken stages.source stages.starts runs fun asks => by cases asks
  obtain ⟨ended, stored, refused, forwarded, received⟩ := forwards
  refine ⟨ended, ?_, taken, told, stored, refused, forwarded, received⟩
  have done : .done ∈ replies history s.output thread := by
    rw [forwarded.answers]
    exact List.mem_append_right _ (List.mem_singleton_self _)
  obtain ⟨turn, member, tells⟩ := turn_of_replies done
  obtain ⟨_, _, _, _, _, queue, created, here, inner⟩ := run.opened stages.sink
  exact ⟨queue, here, inner.closed_of_told created member tells rfl⟩

end

-----------------------------------------------------------------------------------------
-- A stage that nobody comes before in closing its output
-----------------------------------------------------------------------------------------

/-- Nobody but the given thread closes queue `k`: no other thread calls to close it, and the
sink fails under no wait of another one that has a limit.
-/
def ClosedOnlyBy (thread k : Nat) (history : List (Happening α)) : Prop :=
  ∀ happening ∈ history,
    happening.request.queue = k
    → happening.turn.thread ≠ thread
    → happening.request.operation.isClose = false
      ∧ (happening.turn.move.isFailure = false
        ∨ happening.request.operation.timeout = .infinite)

instance (thread k : Nat) (history : List (Happening α))
    : Decidable (ClosedOnlyBy thread k history) :=
  inferInstanceAs (Decidable (∀ happening ∈ history,
    happening.request.queue = k
    → happening.turn.thread ≠ thread
    → happening.request.operation.isClose = false
      ∧ (happening.turn.move.isFailure = false
        ∨ happening.request.operation.timeout = .infinite)))

section
variable {others : Program τ α} {start w : World (Task α ⊕ τ) α} {history : List (Happening α)}
  {s : Stage α} {thread : Nat} {values more : List α}

/-- A stage whose output has never refused it anything, and is open until the stage has handed
on everything.
-/
structure Unrefused (s : Stage α) (thread : Nat) (history : List (Happening α))
    (w : World (Task α ⊕ τ) α) (task : Task α) : Prop where
  never : ∀ value, .push (.error (.closed value)) ∉ replies history s.output thread
  spares
    : (∀ {q}, w.queues[s.output]? = some q → q.fifo.closed = false)
      ∨ task.isEnding = true ∧ Done s thread history

theorem Unrefused.isOpen {task : Task α} (unrefused : Unrefused s thread history w task)
    (goesOn : task.isEnding = false) {q : Queue α} (here : w.queues[s.output]? = some q)
    : q.fifo.closed = false := by
  rcases unrefused.spares with isOpen | ⟨ending, _⟩
  · exact isOpen here
  · cases goesOn.symm.trans ending

/-- A stage is not refused a push by an output that it leaves open. -/
theorem Run.not_refused (run : Run (Task.program.beside others) start history w)
    (stages : start.Stages thread s values more) {task : Task α} {queue : Queue α}
    {happening : Happening α} {after : World (Task α ⊕ τ) α}
    (forwards : Forwards s thread history task)
    (asks : task.request? = some happening.request)
    (acts : w.Acts (Task.program.beside others) (.inl task) queue happening after)
    (here : happening.request.queue = s.output)
    (isOpen
      : task.isEnding = false
        → ∀ {q}, after.queues[s.output]? = some q → q.fifo.closed = false)
    (value : α)
    : happening.turn.progress.answer ≠ some (.push (.error (.closed value))) := by
  intro answered
  have opens := here ▸ stages.sink
  rcases forwards.asks stages.ends asks with ⟨_, there, _⟩ | ⟨_, ⟨goesOn, _⟩ | ⟨_, closes⟩⟩
  · exact stages.ends.apart (there.symm.trans here)
  · have still := isOpen goesOn (here ▸ acts.queue_self)
    obtain ⟨_, _, reply⟩ := run.reply opens acts (run.known opens acts.found) answered
    cases still.symm.trans (reply.closed_of_told rfl)
  · rcases run.close_cases opens acts answered closes with done | lost
    · cases done
    · cases lost

/-- The output of a stage that alone closes it refuses the stage nothing. -/
theorem Run.unrefused (run : Run (Task.program.beside others) start history w)
    (stages : start.Stages thread s values more)
    (alone : ClosedOnlyBy thread s.output history)
    : ∃ task, w.programs[thread]? = some (.inl task) ∧ Unrefused s thread history w task := by
  have earlier
      : ∀ {history : List (Happening α)} {happening},
          ClosedOnlyBy thread s.output (history ++ [happening])
          → ClosedOnlyBy thread s.output history :=
    fun alone other member => alone other (List.mem_append_left _ member)
  have holds := run.task stages.starts (P := fun history w task =>
    ClosedOnlyBy thread s.output history → Unrefused s thread history w task) ?_ ?_ ?_ ?_
  · obtain ⟨task, runs, holds⟩ := holds
    exact ⟨task, runs, holds alone⟩
  · exact fun _ => ⟨nofun, Or.inl fun here => stages.sink.isOpen here⟩
  · intro history w program queue happening after task before known runs acts quiet alone
    have unrefused := known (earlier alone)
    obtain ⟨_, same, forwards⟩ := before.forwards stages
    obtain rfl := Sum.inl.inj (Option.some.inj (runs.symm.trans same))
    have kept := fun k => learns_nothing history happening k thread fun _ => quiet
    have never := (kept s.output).2.2 ▸ unrefused.never
    refine ⟨never, ?_⟩
    have stays (done : Done s thread history) : Done s thread (history ++ [happening]) :=
      done.kept (kept s.input).1 (kept s.output).2.1
    rcases unrefused.spares with isOpen | ⟨ending, done⟩
    · by_cases closes : happening.turn.thread = thread ∧ task.isEnding = true
      · -- The stage is closing its output, so that it has handed on everything.
        obtain ⟨rfl, ending⟩ := closes
        obtain rfl := Option.some.inj (acts.runs.symm.trans runs)
        exact Or.inr ⟨ending, stays (forwards.done stages.ends ending acts.asks
          unrefused.never).1⟩
      · refine Or.inl fun there => before.stays_open stages.sink acts isOpen ?_ there
        intro here
        by_cases own : happening.turn.thread = thread
        · have goesOn := Bool.eq_false_iff.mpr fun ending => closes ⟨own, ending⟩
          subst own
          obtain rfl := Option.some.inj (acts.runs.symm.trans runs)
          exact (forwards.gentle stages.ends goesOn acts.asks here).imp id Or.inr
        · exact alone happening (List.mem_append_right _ (List.mem_singleton_self _)) here own
    · exact Or.inr ⟨ending, stays done⟩
  · intro history w queue happening after task answer before known asks acts own answered alone
    have unrefused := known (earlier alone)
    obtain ⟨_, same, forwards⟩ := before.forwards stages
    have runs := acts.runs
    rw [own] at runs
    obtain rfl := Sum.inl.inj (Option.some.inj (runs.symm.trans same))
    have stays
        : task.isEnding = false
          → ∀ {q}, after.queues[s.output]? = some q → q.fifo.closed = false :=
      fun goesOn q => before.stays_open stages.sink acts (unrefused.isOpen goesOn) fun here =>
        (forwards.gentle stages.ends goesOn asks here).imp id Or.inr
    refine ⟨fun value refused => ?_, ?_⟩
    · by_cases here : happening.request.queue = s.output
      · rw [(learns history here own answered).2.2] at refused
        rcases List.mem_append.mp refused with earlier | newest
        · exact unrefused.never value earlier
        · rw [← List.mem_singleton.mp newest] at answered
          exact before.not_refused stages forwards asks acts here stays value answered
      · rw [(learns_nothing history happening s.output thread fun there =>
          absurd there here).2.2] at refused
        exact unrefused.never value refused
    · cases ending : task.isEnding with
      | false => exact Or.inl (stays ending)
      | true =>
        obtain ⟨done, here, closes⟩ := forwards.done stages.ends ending asks unrefused.never
        have taken := learns_nothing history happening s.input thread fun there =>
          absurd (there.symm.trans here) stages.ends.apart
        have told := (learns history here own answered).2.1
        rw [closes, answer.accepted_of_close, List.append_nil] at told
        exact Or.inr ⟨Task.isEnding_resume ending answer, done.kept taken.1 told⟩
  · exact fun tick known alone => ⟨(known alone).never, (known alone).spares⟩

end

end World

end Conduit
