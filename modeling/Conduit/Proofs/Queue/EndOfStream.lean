import Conduit.Proofs.Queue.FailStop

/-! The end of the stream at one queue.
Whoever is told of it leaves a closed queue that has handed out every value it has ever
accepted, and from then on no call at the queue can end with anything else.
-/

namespace Conduit

variable {α : Type}

namespace Queue

-----------------------------------------------------------------------------------------
-- The flag
-----------------------------------------------------------------------------------------

/-- Whoever has the lock of a queue that counts as closed has marked it closed, unless the sink
is about to fail under it.
-/
theorem Orderly.marked {q : Queue α} (orderly : q.Orderly) {now thread other : Nat}
    {move : Move α} {progress : Progress α}
    (transition : q.Transition now thread move progress)
    (marked
      : ∀ {call outcome reporting},
          q.phase? other = some (.inside call outcome reporting)
          → q.fifo.closed = true
          → q.state.closed = true)
    {call : Call α} {outcome : Outcome α} {reporting : Bool}
    (inside : progress.queue.phase? other = some (.inside call outcome reporting))
    (closed : progress.queue.fifo.closed = true)
    : progress.queue.state.closed = true := by
  by_cases own : other = thread
  · subst own
    obtain ⟨free, _⟩ := transition.free_of_inside inside
    cases transition with
    | @enters preferred call sleptOn door =>
      have worked := (worked_of_work orderly.sound now call sleptOn (orderly.came door)).1
      rw [fifo_enterWith worked] at closed
      exact closed
    | cleansUp =>
      rw [fifo_enterWith (worked_of_failureWork orderly.sound).1] at closed
      exact closed
    | stumbles sleptOn door => cases inside.symm.trans (phase?_setPhase_self door _)
    | begins here | inspects here | refuses here | ends here | sleeps here | fails here
    | failsGuarded here | failsAgain here | stirs here =>
      cases inside.symm.trans (phase?_setPhase_self here _)
  · rcases transition.others own with kept | ⟨side, asks, _, woken⟩
    · have here := kept.symm.trans inside
      have still := (orderly.undisturbed here rfl (Ne.symm own) transition).2
      rw [still] at closed
      exact orderly.keepsClosed transition (marked here closed)
    · cases woken.symm.trans inside

section
variable {slotBytes threads : Nat} {clock : Clock} {config : Config} {values : List α}
  {fresh q : Queue α}
  {history : List (Turn α)} {turn : Turn α}

theorem Run.marked
    (created : (ofConfigAndItems slotBytes config (.ofList values)).result = .ok fresh)
    (run : Run (fresh.withThreads clock threads) history q) {thread : Nat} {call : Call α}
    {outcome : Outcome α} {reporting : Bool}
    (inside : q.phase? thread = some (.inside call outcome reporting))
    (closed : q.fifo.closed = true)
    : q.state.closed = true := by
  refine run.invariant created
    (fun q => ∀ {call outcome reporting},
      q.phase? thread = some (.inside call outcome reporting)
      → q.fifo.closed = true
      → q.state.closed = true) ?_ ?_ inside closed
  · intro call outcome reporting inside
    cases phase?_withThreads inside
  · exact fun orderly marked transition => orderly.marked transition marked

/-- A queue is marked closed from the moment on when somebody has been told that it is
closed.
-/
theorem Run.closed_of_told
    (created : (ofConfigAndItems slotBytes config (.ofList values)).result = .ok fresh)
    (run : Run (fresh.withThreads clock threads) history q) (member : turn ∈ history)
    {answer : Answer α} (answered : turn.progress.answer = some answer)
    (closed : answer.tellsClosed = true)
    : q.state.closed = true := by
  obtain ⟨early, before, late, _, first, made, rest⟩ := run.split member
  have orderly := first.orderly created
  have transition := Transition.of_step? made
  obtain ⟨⟨call, reporting, inside⟩, after⟩ := transition.leaves_of_closed answered closed
  have counts : before.fifo.closed = true := by
    have same : turn.progress.queue.fifo = before.fifo := by
      rw [after]
      rfl
    obtain ⟨_, _, _, _, _, _, reply⟩ :=
      (first.known_of_created created).reply transition answered
    rw [← same]
    exact reply.closed_of_told closed
  have marked : before.state.closed = true := first.marked created inside counts
  refine rest.keepsClosed (orderly.transition transition) ?_
  rw [after]
  exact marked

end

-----------------------------------------------------------------------------------------
-- After the end of the stream
-----------------------------------------------------------------------------------------

end Queue

/-- The values that a queue has accepted in the course of a run, those that it was created
with first, in the order in which it did.
-/
def accepted (values : List α) (history : List (Turn α)) : List α :=
  values ++ (Queue.storedBy history).map Prod.snd

/-- A queue at the end of its stream: it is closed, and every value that it has ever accepted
has been handed out, in order, and to the end.
-/
structure Queue.Exhausted (values : List α) (history : List (Turn α)) (q : Queue α) : Prop where
  closed : q.state.closed = true
  empty : q.state.ring.toList = []
  taken : (takenBy history).map Prod.snd = accepted values history
  delivered : ∀ {thread phase}, q.phase? thread = some phase → phase.carried = []

namespace Queue

/-- At a list that has ended no operation ends with a value. -/
theorem handedOut_of_ended {operation : Operation α} {answer : Answer α}
    (ends : operation.EndsWith [] answer)
    : answer.handedOut = [] := by
  cases operation with
  | waitPop | tryPop =>
    rcases ends with rfl | ⟨_, none, _⟩
    · rfl
    · cases none
  | nonblockingPop =>
    rcases ends with rfl | rfl | ⟨_, none, _⟩
    · rfl
    · rfl
    · cases none
  | drain =>
    obtain ⟨values, left, rfl⟩ := ends
    exact List.suffix_nil.mp left
  | waitPush | tryPush | close | isClosed =>
    cases ends
    rfl
  | nonblockingPush => rcases ends with rfl | rfl <;> rfl
  | isEmpty | isFull | length =>
    obtain ⟨_, rfl⟩ := ends
    rfl
  | inspect property =>
    obtain ⟨config, rfl⟩ := ends
    cases property <;> rfl

/-- At a list that has ended a pop reports just that, unless it does not wait for the lock or
the sink has failed under it.
-/
theorem Reply.popped_of_ended {q after : Queue α} {operation : Operation α}
    {deadline : Option Nat} {answer : Answer α}
    (reply : q.Reply (Fifo.Ending []) operation deadline after answer)
    (pops : operation.isPop = true)
    : answer = .pop (.error .closed)
      ∨ operation.busy? = some answer
      ∨ answer = .sinkFailed := by
  rcases reply.endsWith with lost | ends
  · exact Or.inr (Or.inr lost)
  · cases operation with
    | waitPop | tryPop =>
      rcases ends with closed | ⟨_, none, _⟩
      · exact Or.inl closed
      · cases none
    | nonblockingPop =>
      rcases ends with closed | busy | ⟨_, none, _⟩
      · exact Or.inl closed
      · exact Or.inr (Or.inl (congrArg some busy.symm))
      · cases none
    | _ => cases pops

/-- A drain takes nothing from a list that has ended, unless the sink has failed under it. -/
theorem Reply.drained_of_ended {q after : Queue α} {answer : Answer α}
    (reply : q.Reply (Fifo.Ending []) .drain none after answer)
    : answer = .drained [] ∨ answer = .sinkFailed := by
  cases reply with
  | inspected asks => cases asks
  | busy refused => cases refused
  | served ending response =>
    obtain ⟨values, left, drained⟩ := (ending.serve response).2
    exact Or.inl (by rw [drained, List.suffix_nil.mp left])
  | failed lost => exact Or.inr lost

/-- Nobody is about to be handed anything by a list that has ended for everybody inside. -/
theorem Known.nothing_carried {q : Queue α} (known : q.Known (Fifo.Ending [])) {thread : Nat}
    {phase : Phase α} (found : q.phase? thread = some phase)
    : phase.carried = [] := by
  have decided := known.decided found
  cases phase with
  | inside call outcome reporting =>
    cases outcome with
    | waits => rfl
    | answered answer =>
      rcases decided with ⟨met, now, ending, served, _⟩ | ⟨rfl, _⟩
      · exact handedOut_of_ended (ending.serve served).2
      · rfl
  | _ => rfl

/-- Nobody is about to be told that a closed list has stored anything. -/
theorem Known.nothing_unreported {elements : List α} {q : Queue α}
    (known : q.Known (Fifo.Ending elements)) {thread : Nat} {phase : Phase α}
    (found : q.phase? thread = some phase)
    : phase.unreported = [] := by
  have decided := known.decided found
  cases phase with
  | inside call outcome reporting =>
    cases outcome with
    | waits => rfl
    | answered answer =>
      rcases decided with ⟨met, now, ending, served, _⟩ | ⟨rfl, _⟩
      · exact accepted_of_refused (Fifo.Ending.refuses (ending.serve served).2) _
      · exact accepted_of_refused rfl _
  | _ => rfl

section
variable {slotBytes threads : Nat} {clock : Clock} {config : Config} {values : List α}
  {fresh q : Queue α}
  {history : List (Turn α)} {turn : Turn α}

/-- Once somebody has been told of the end of the stream, the list has ended for everybody. -/
theorem Run.ended
    (created : (ofConfigAndItems slotBytes config (.ofList values)).result = .ok fresh)
    (run : Run (fresh.withThreads clock threads) history q) (member : turn ∈ history)
    (ended : turn.progress.answer = some (.pop (.error .closed)))
    : q.Known (Fifo.Ending []) := by
  obtain ⟨early, before, late, _, first, made, rest⟩ := run.split member
  exact rest.known (Fifo.stable_ending [])
    ((first.known_of_created created).ended Fifo.stable_true (.of_step? made) ended)

/-- Once somebody has been refused a push since the queue is closed, it is closed for
everybody.
-/
theorem Run.refused
    (created : (ofConfigAndItems slotBytes config (.ofList values)).result = .ok fresh)
    (run : Run (fresh.withThreads clock threads) history q) (member : turn ∈ history) {value : α}
    (refused : turn.progress.answer = some (.push (.error (.closed value))))
    : ∃ elements, q.Known (Fifo.Ending elements) := by
  obtain ⟨early, before, late, _, first, made, rest⟩ := run.split member
  exact ⟨_, rest.known (Fifo.stable_ending _)
    ((first.known_of_created created).refused Fifo.stable_true (.of_step? made) refused)⟩

/-- Once somebody has been told of the end of the stream, the queue is exhausted. -/
theorem Run.exhausted
    (created : (ofConfigAndItems slotBytes config (.ofList values)).result = .ok fresh)
    (run : Run (fresh.withThreads clock threads) history q) (member : turn ∈ history)
    (ended : turn.progress.answer = some (.pop (.error .closed)))
    : q.Exhausted values history := by
  have known := run.ended created member ended
  have empty : q.state.ring.toList = [] := List.suffix_nil.mp known.meets.left
  have order := run.order created
  rw [empty, List.append_nil] at order
  exact ⟨run.closed_of_told created member ended rfl, empty, order.symm, known.nothing_carried⟩

end

end Queue

end Conduit
