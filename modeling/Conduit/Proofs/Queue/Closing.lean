import Conduit.Proofs.Queue.Replies

/-! Closing is final.
A closed queue stores nothing any more and loses elements only from the front, and what its
callers end with follows from what it still holds. Once it is marked closed, the sink can fail
at it no more.
-/

namespace Conduit

variable {α : Type}

/-- A closed list that has nothing left but the last ones of some elements. -/
structure Fifo.Ending (elements : List α) (f : Fifo α) : Prop where
  closed : f.closed = true
  left : f.elements <:+ elements

/-- What an operation can end with at a closed queue that has nothing left but some of the
given elements: a push with its own value refused, a pop with one of the elements or the end
of the stream. Only operations that do not wait for the lock can find it taken.
-/
def Operation.EndsWith (elements : List α) (answer : Answer α) : Operation α → Prop
  | .waitPush value _ | .tryPush value => answer = .push (.error (.closed value))
  | .nonblockingPush value =>
    answer = .push (.error (.closed value)) ∨ answer = .push (.error (.busy value))
  | .waitPop _ | .tryPop =>
    answer = .pop (.error .closed) ∨ ∃ value ∈ elements, answer = .pop (.ok value)
  | .nonblockingPop =>
    answer = .pop (.error .closed)
    ∨ answer = .pop (.error .busy)
    ∨ ∃ value ∈ elements, answer = .pop (.ok value)
  | .drain => ∃ values, values <:+ elements ∧ answer = .drained values
  | .close => answer = .done
  | .isClosed => answer = .flag true
  | .isEmpty | .isFull => ∃ flag, answer = .flag flag
  | .length => ∃ count, answer = .count count
  | .inspect property => ∃ config : Config, answer = config.inspect property

/-- Whether an answer tells its caller that the queue is closed. -/
def Answer.tellsClosed : Answer α → Bool
  | .pop (.error .closed) | .push (.error (.closed _)) | .done => true
  | _ => false

namespace Fifo

-----------------------------------------------------------------------------------------
-- A closed list
-----------------------------------------------------------------------------------------

theorem push_of_closed {f : Fifo α} (closed : f.closed = true) (value : α)
    (otherwise : Response α)
    : f.push value otherwise = .answers (.push (.error (.closed value))) f :=
  if_pos closed

/-- A closed list gives out its head, or reports the end of the stream. -/
theorem pop_of_closed {f : Fifo α} (closed : f.closed = true) (otherwise : Response α)
    : (f.elements = [] ∧ f.pop otherwise = .answers (.pop (.error .closed)) f)
      ∨ ∃ value rest,
          f.elements = value :: rest
          ∧ f.pop otherwise = .answers (.pop (.ok value)) { f with elements := rest } := by
  cases elements : f.elements with
  | nil => exact Or.inl ⟨rfl, by simp only [pop, elements, if_pos closed]⟩
  | cons value rest => exact Or.inr ⟨value, rest, rfl, by simp only [pop, elements]⟩

/-- What every operation ends with at a closed list, and what it leaves. -/
theorem Ending.serve {elements : List α} {f after : Fifo α} (ending : f.Ending elements)
    {expired : Bool} {operation : Operation α} {answer : Answer α}
    (served : f.serve expired operation = .answers answer after)
    : after.elements <:+ elements ∧ operation.EndsWith elements answer := by
  have left := ending.left
  have popped
      : ∀ {otherwise : Response α},
          f.pop otherwise = .answers answer after
          → after.elements <:+ elements
            ∧ (answer = .pop (.error .closed)
              ∨ ∃ value ∈ elements, answer = .pop (.ok value)) := by
    intro otherwise gives
    rcases pop_of_closed ending.closed otherwise with ⟨_, ended⟩ | ⟨value, rest, here, taken⟩
    · obtain ⟨rfl, rfl⟩ := Response.answers.inj (ended.symm.trans gives)
      exact ⟨left, Or.inl rfl⟩
    · obtain ⟨rfl, rfl⟩ := Response.answers.inj (taken.symm.trans gives)
      rw [here] at left
      exact ⟨(List.suffix_cons value rest).trans left,
        Or.inr ⟨value, left.subset (List.mem_cons_self ..), rfl⟩⟩
  cases operation with
  | waitPush value timeout | tryPush value =>
    rw [Fifo.serve, push_of_closed ending.closed] at served
    obtain ⟨rfl, rfl⟩ := Response.answers.inj served
    exact ⟨left, rfl⟩
  | nonblockingPush value =>
    rw [Fifo.serve, push_of_closed ending.closed] at served
    obtain ⟨rfl, rfl⟩ := Response.answers.inj served
    exact ⟨left, Or.inl rfl⟩
  | waitPop timeout | tryPop => exact popped served
  | nonblockingPop => exact ⟨(popped served).1, (popped served).2.imp_right Or.inr⟩
  | drain =>
    cases served
    exact ⟨List.nil_suffix, _, left, rfl⟩
  | close =>
    cases served
    exact ⟨left, rfl⟩
  | isClosed =>
    cases served
    exact ⟨left, congrArg Answer.flag ending.closed⟩
  | isEmpty | isFull | length =>
    cases served
    exact ⟨left, _, rfl⟩
  | inspect property =>
    cases served
    exact ⟨left, _, rfl⟩

/-- A list that is coming to its end goes on doing so. -/
theorem stable_ending (elements : List α) : Stable (Ending elements) where
  serves ending served :=
    ⟨stable_closed.serves ending.closed served, (ending.serve served).1⟩
  fails ending := ⟨rfl, ending.left⟩

/-- No operation stores a value in a closed list. -/
theorem Ending.refuses {elements : List α} {operation : Operation α} {answer : Answer α}
    (ends : operation.EndsWith elements answer)
    : answer.isAccepted = false := by
  cases operation with
  | waitPop | tryPop => rcases ends with rfl | ⟨_, _, rfl⟩ <;> rfl
  | nonblockingPop => rcases ends with rfl | rfl | ⟨_, _, rfl⟩ <;> rfl
  | nonblockingPush => rcases ends with rfl | rfl <;> rfl
  | waitPush | tryPush | close | isClosed =>
    cases ends
    rfl
  | drain =>
    obtain ⟨_, _, rfl⟩ := ends
    rfl
  | isEmpty | isFull | length =>
    obtain ⟨_, rfl⟩ := ends
    rfl
  | inspect property =>
    obtain ⟨config, rfl⟩ := ends
    cases property <;> rfl

/-- What an answer tells of the list that it leaves: a drain leaves nothing, closure is
reported by closed lists only, and the end of the stream only by those without elements. The
table knows nothing of a sink that fails.
-/
def Tells (after : Fifo α) : Answer α → Prop
  | .push (.error (.closed _)) | .done => after.closed = true
  | .pop (.error .closed) => after.closed = true ∧ after.elements = []
  | .drained _ => after.elements = []
  | .sinkFailed => False
  | _ => True

theorem tells_of_pop {f after : Fifo α} {otherwise : Response α} {answer : Answer α}
    (popped : f.pop otherwise = .answers answer after)
    (else_tells : otherwise = .answers answer after → after.Tells answer)
    : after.Tells answer := by
  unfold pop at popped
  split at popped
  · cases popped
    trivial
  · rename_i none
    split at popped
    · rename_i closed
      cases popped
      exact ⟨closed, none⟩
    · exact else_tells popped

theorem tells_of_serve {f after : Fifo α} {expired : Bool} {operation : Operation α}
    {answer : Answer α} (served : f.serve expired operation = .answers answer after)
    : after.Tells answer := by
  cases operation with
  | waitPush value timeout | tryPush value | nonblockingPush value =>
    simp only [serve, push] at served
    repeat' split at served
    all_goals cases served
    all_goals first | assumption | trivial
  | waitPop timeout =>
    refine tells_of_pop served fun empty => ?_
    split at empty <;> cases empty
    trivial
  | tryPop | nonblockingPop =>
    refine tells_of_pop served fun empty => ?_
    cases empty
    trivial
  | drain =>
    cases served
    rfl
  | close =>
    cases served
    rfl
  | isClosed | isEmpty | isFull | length =>
    cases served
    trivial
  | inspect property => cases property <;> cases served <;> trivial

end Fifo

namespace Queue

-----------------------------------------------------------------------------------------
-- The answers of a closed queue
-----------------------------------------------------------------------------------------

/-- At a closed queue a call ends as its operation does at a closed list, or because the sink
has failed under it.
-/
theorem Reply.endsWith {elements : List α} {q after : Queue α} {operation : Operation α}
    {deadline : Option Nat} {answer : Answer α}
    (reply : q.Reply (Fifo.Ending elements) operation deadline after answer)
    : answer = .sinkFailed ∨ operation.EndsWith elements answer := by
  cases reply with
  | inspected asks tells kept =>
    subst asks
    exact Or.inr ⟨q.config, tells.symm⟩
  | busy refused kept =>
    refine Or.inr ?_
    cases operation <;> cases refused
    · exact Or.inr rfl
    · exact Or.inr (Or.inl rfl)
  | served ending response kept => exact Or.inr (ending.serve response).2
  | failed lost => exact Or.inl lost

/-- Whoever is told that the stream has ended leaves a closed queue without elements. -/
theorem Reply.closed_pop {M : Fifo α → Prop} {q after : Queue α} {operation : Operation α}
    {deadline : Option Nat} {answer : Answer α}
    (reply : q.Reply M operation deadline after answer)
    (ended : answer = .pop (.error .closed))
    : after.fifo.Ending [] := by
  subst ended
  cases reply with
  | @inspected property _ asks tells => cases property <;> cases tells
  | busy refused => cases operation <;> cases refused
  | served _ response =>
    obtain ⟨closed, none⟩ := Fifo.tells_of_serve response
    exact ⟨closed, none ▸ List.nil_suffix⟩
  | failed lost => cases lost

/-- Whoever is told that a queue is closed leaves it closed. -/
theorem Reply.closed_of_told {M : Fifo α → Prop} {q after : Queue α} {operation : Operation α}
    {deadline : Option Nat} {answer : Answer α}
    (reply : q.Reply M operation deadline after answer) (told : answer.tellsClosed = true)
    : after.fifo.closed = true := by
  cases reply with
  | @inspected property _ asks tells =>
    subst tells
    cases property <;> cases told
  | busy refused => cases operation <;> cases refused <;> cases told
  | @served met now _ _ response =>
    have tells := Fifo.tells_of_serve response
    match answer, told with
    | .pop (.error .closed), _ => exact tells.1
    | .push (.error (.closed _)), _ | .done, _ => exact tells
  | failed lost =>
    subst lost
    cases told

/-- A pop that may wait for ever ends with an element or the end of the stream, or the sink has
failed under it.
-/
theorem Reply.waitPop_cases {M : Fifo α → Prop} {q after : Queue α} {timeout : Timeout}
    {answer : Answer α} (reply : q.Reply M (.waitPop timeout) none after answer)
    : (∃ value, answer = .pop (.ok value))
      ∨ answer = .pop (.error .closed)
      ∨ answer = .sinkFailed := by
  cases reply with
  | inspected asks => cases asks
  | busy refused => cases refused
  | @served met now _ _ response =>
    rcases Fifo.pop_eq_answers response with
      ⟨value, _, _, given, _⟩ | ⟨_, given, _⟩ | ⟨_, waits⟩
    · exact Or.inl ⟨value, given⟩
    · exact Or.inr (Or.inl given)
    · cases waits
  | failed lost => exact Or.inr (Or.inr lost)

/-- A push that may wait for ever ends with its value stored, or with the value refused since
the queue is closed, or the sink has failed under it.
-/
theorem Reply.waitPush_cases {M : Fifo α → Prop} {q after : Queue α} {value : α}
    {timeout : Timeout} {answer : Answer α}
    (reply : q.Reply M (.waitPush value timeout) none after answer)
    : answer = .push (.ok ())
      ∨ answer = .push (.error (.closed value))
      ∨ answer = .sinkFailed := by
  cases reply with
  | inspected asks => cases asks
  | busy refused => cases refused
  | served meets response =>
    rcases Fifo.push_eq_answers response with ⟨_, given, _⟩ | ⟨given, _⟩ | ⟨_, waits⟩
    · exact Or.inr (Or.inl given)
    · exact Or.inl given
    · cases waits
  | failed lost => exact Or.inr (Or.inr lost)

/-- A close leaves the queue closed, whether or not the sink fails under it. -/
theorem Reply.closed_close {M : Fifo α → Prop} {q after : Queue α} {deadline : Option Nat}
    {answer : Answer α} (reply : q.Reply M .close deadline after answer)
    : after.fifo.closed = true ∧ (answer = .done ∨ answer = .sinkFailed) := by
  cases reply with
  | inspected asks => cases asks
  | busy refused => cases refused
  | served meets response =>
    obtain ⟨rfl, same⟩ := Fifo.Response.answers.inj response
    exact ⟨by rw [← same], Or.inl rfl⟩
  | failed lost closed => exact ⟨closed rfl, Or.inr lost⟩

/-- Whoever is told that a queue is closed has found that out under the lock, and gives it
back just then.
-/
theorem Transition.leaves_of_closed {q : Queue α} {now thread : Nat} {move : Move α}
    {progress : Progress α} (transition : q.Transition now thread move progress)
    {answer : Answer α} (answered : progress.answer = some answer)
    (closed : answer.tellsClosed = true)
    : (∃ call reporting,
        q.phase? thread = some (.inside call (.answered answer) reporting))
      ∧ progress.queue = { q with holder := none }.setPhase thread .idle := by
  cases transition with
  | ends inside =>
    obtain rfl := Option.some.inj answered
    exact ⟨⟨_, _, inside⟩, rfl⟩
  | fails | failsAgain =>
    obtain rfl := Option.some.inj answered
    cases closed
  | begins | sleeps | stumbles | stirs | enters | cleansUp | failsGuarded => cases answered
  | @inspects preferred call property =>
    obtain rfl := Option.some.inj answered
    cases property <;> cases closed
  | @refuses preferred call holder given arrived held busy =>
    obtain rfl := Option.some.inj answered
    cases operation : call.operation <;> rw [operation] at busy <;> cases busy <;> cases closed

/-- From the moment on when somebody has been told that the stream has ended, nothing else is
known of the list, whoever meets it.
-/
theorem Known.ended {M : Fifo α → Prop} {q : Queue α} (known : q.Known M)
    (stable : Fifo.Stable M) {now thread : Nat} {move : Move α} {progress : Progress α}
    (transition : q.Transition now thread move progress)
    (answered : progress.answer = some (.pop (.error .closed)))
    : progress.queue.Known (Fifo.Ending []) := by
  obtain ⟨_, _, _, _, _, _, reply⟩ := known.reply transition answered
  have free : progress.queue.holder = none := by
    rw [(transition.leaves_of_closed answered rfl).2]
    rfl
  exact (known.transition stable transition).learn free (reply.closed_pop rfl)

/-- From the moment on when somebody has been refused a push, the queue is closed for whoever
meets it.
-/
theorem Known.refused {M : Fifo α → Prop} {q : Queue α} (known : q.Known M)
    (stable : Fifo.Stable M) {now thread : Nat} {move : Move α} {progress : Progress α}
    (transition : q.Transition now thread move progress) {value : α}
    (answered : progress.answer = some (.push (.error (.closed value))))
    : progress.queue.Known (Fifo.Ending progress.queue.state.ring.toList) := by
  obtain ⟨_, _, _, _, _, _, reply⟩ := known.reply transition answered
  have free : progress.queue.holder = none := by
    rw [(transition.leaves_of_closed answered rfl).2]
    rfl
  exact (known.transition stable transition).learn free
    ⟨reply.closed_of_told rfl, List.suffix_refl _⟩

-----------------------------------------------------------------------------------------
-- Steps that close a queue, and steps at a closed one
-----------------------------------------------------------------------------------------

/-- The flag itself is never taken back. -/
theorem Orderly.keepsClosed {q : Queue α} (orderly : q.Orderly) {now thread : Nat}
    {move : Move α} {progress : Progress α}
    (transition : q.Transition now thread move progress) (closed : q.state.closed = true)
    : progress.queue.state.closed = true := by
  have counts : q.fifo.closed = true := by
    change (q.state.closed || q.poisoned) = true
    rw [closed, Bool.true_or]
  cases transition with
  | @enters preferred call sleptOn door free locks =>
    exact (worked_of_work orderly.sound now call sleptOn (orderly.came door)).1.closed counts
  | cleansUp failing free => exact (worked_of_failureWork orderly.sound).1.closed counts
  | _ => exact closed

/-- Whoever takes the lock of a queue that counts as closed marks it closed, unless the sink is
about to fail under it.
-/
theorem Orderly.marksClosed {q : Queue α} (orderly : q.Orderly) {now thread : Nat}
    {move : Move α} {progress : Progress α}
    (transition : q.Transition now thread move progress) (steady : move.isStumble = false)
    (closed : q.fifo.closed = true) (free : q.holder = none)
    (takes : progress.queue.holder = some thread)
    : progress.queue.state.closed = true := by
  cases transition with
  | @enters preferred call sleptOn door _ locks =>
    exact (worked_of_work orderly.sound now call sleptOn (orderly.came door)).1.closed closed
  | cleansUp failing _ => exact (worked_of_failureWork orderly.sound).1.closed closed
  | stumbles => cases steady
  | begins | inspects | refuses | stirs => cases free.symm.trans takes
  | ends | sleeps | fails | failsGuarded | failsAgain => cases takes

/-- An open queue is closed by a step only in a call to close it, or if the sink fails in a
call that had a deadline.
-/
theorem Known.closing {M : Fifo α → Prop} {q : Queue α} (known : q.Known M) {now thread : Nat}
    {move : Move α} {progress : Progress α}
    (transition : q.Transition now thread move progress) (isOpen : q.fifo.closed = false)
    (closed : progress.queue.fifo.closed = true)
    : ∃ phase operation deadline,
        q.phase? thread = some phase
        ∧ phase.terms? = some (operation, deadline)
        ∧ (operation = .close ∨ move.isFailure = true ∧ deadline.isSome = true) := by
  have orderly := known.orderly
  cases transition with
  | begins | inspects | refuses | stumbles | ends | sleeps | failsAgain | stirs =>
    cases isOpen.symm.trans closed
  | @enters preferred call sleptOn door free locks =>
    refine ⟨_, call.operation, call.deadline, door, by cases sleptOn <;> rfl, Or.inl ?_⟩
    obtain ⟨worked, answered⟩ :=
      worked_of_work orderly.sound now call sleptOn (orderly.came door)
    rw [fifo_enterWith worked] at closed
    have response := answered.response
    rw [Section.response] at response
    cases result : (q.work now call sleptOn).result with
    | waits => cases (worked.waits result).symm.trans closed
    | answered answer =>
      rw [result] at response
      have flag := (Fifo.served_of_serve response).closed
      rw [closed, isOpen, Bool.false_or] at flag
      cases operation : call.operation with
      | close => rfl
      | _ =>
        rw [operation] at flag
        cases flag
  | cleansUp failing =>
    cases isOpen.symm.trans (fifo_closed_of_poisoned (orderly.fits failing))
  | fails here reports | failsGuarded here reports =>
    refine ⟨_, _, _, here, Phase.terms_of_atSink? reports, ?_⟩
    rcases known.atSink_cases here reports with
      ⟨met, now, answer, _, _, _, served, reported⟩ | ⟨_, _, alarmed⟩
    · exact (Fifo.reported_cases served reported).imp And.left fun timed => ⟨rfl, timed.1⟩
    · cases isOpen.symm.trans (fifo_closed_of_poisoned (Bool.and_eq_true_iff.mp alarmed).1)

/-- Nothing is stored in a queue that counts as closed. -/
theorem Orderly.stores_nothing {q : Queue α} (orderly : q.Orderly)
    (closed : q.fifo.closed = true) {turn : Turn α}
    (transition : q.Transition turn.now turn.thread turn.move turn.progress)
    : turn.stored = [] := by
  unfold Turn.stored
  cases settles : turn.settles? with
  | none => rfl
  | some settled =>
    obtain ⟨operation, answer⟩ := settled
    obtain ⟨_, _, _, _, rfl | response⟩ := orderly.settled transition.step? settles
    · rfl
    · have ending : q.fifo.Ending q.fifo.elements := ⟨closed, List.suffix_refl _⟩
      exact accepted_of_refused (Fifo.Ending.refuses (ending.serve response).2) _

/-- Once a queue counts as closed and nobody inside has met it open, nothing is stored, and the
sink fails only in the report of a poisoned lock.
-/
theorem Known.quiet {elements : List α} {q : Queue α}
    (known : q.Known (Fifo.Ending elements)) {turn : Turn α}
    (transition : q.Transition turn.now turn.thread turn.move turn.progress)
    : (turn.move.isFailure = true
        → ∃ sleptOn call, q.phase? turn.thread = some (.stumbling sleptOn call))
      ∧ turn.stored = []
      ∧ ∀ answer, turn.progress.answer = some answer → answer.isAccepted = false := by
  have orderly := known.orderly
  obtain ⟨now, thread, move, progress⟩ := turn
  simp only at transition ⊢
  refine ⟨fun fails => ?_, ?_, ?_⟩
  · obtain ⟨phase, call, here, reports⟩ := transition.of_failure fails
    rcases known.atSink_cases here reports with
      ⟨met, now, answer, _, ending, isOpen, _⟩ | ⟨sleptOn, rfl, _⟩
    · cases ending.closed.symm.trans isOpen
    · exact ⟨sleptOn, call, here⟩
  · exact orderly.stores_nothing known.meets.closed transition
  · intro answer answered
    obtain ⟨_, _, _, _, _, _, reply⟩ := known.reply transition answered
    rcases reply.endsWith with rfl | ends
    · rfl
    · exact Fifo.Ending.refuses ends

/-- Nobody is about to fail in the report of a poisoned lock. -/
def Upright (q : Queue α) : Prop :=
  ∀ thread sleptOn call, q.phase? thread ≠ some (.stumbling sleptOn call)

theorem upright_withThreads {q : Queue α} {clock : Clock} {threads : Nat}
    : (q.withThreads clock threads).Upright := by
  intro thread sleptOn call found
  cases phase?_withThreads found

theorem Orderly.upright_of_free {q : Queue α} (orderly : q.Orderly) (free : q.holder = none)
    : q.Upright := by
  intro thread sleptOn call found
  cases orderly.outside free found

/-- Nobody stumbles over the lock of a queue that is marked closed. -/
theorem Orderly.upright_of_closed {q : Queue α} (orderly : q.Orderly)
    (closed : q.state.closed = true)
    : q.Upright := by
  intro thread sleptOn call found
  have alarmed := (orderly.fits found).2.1
  cases (Bool.and_eq_true_iff.mp alarmed).2.symm.trans (congrArg (!·) closed)

/-- The sink fails no more at a queue that is closed for everybody, unless somebody is about to
fail in the report of its lock.
-/
theorem Known.healthy {elements : List α} {q : Queue α}
    (known : q.Known (Fifo.Ending elements)) {now thread : Nat} {move : Move α}
    {progress : Progress α} (transition : q.Transition now thread move progress)
    (upright : q.Upright)
    : move.isFailure = false := by
  rw [Bool.eq_false_iff]
  intro fails
  obtain ⟨sleptOn, call, here⟩ :=
    (@Known.quiet _ _ _ known ⟨now, thread, move, progress⟩ transition).1 fails
  exact upright thread sleptOn call here

-----------------------------------------------------------------------------------------
-- Runs
-----------------------------------------------------------------------------------------

section
variable {q last : Queue α} {late : List (Turn α)}

/-- What is stored in the course of a run joins the elements at the back, and what is taken
has left them from the front.
-/
theorem Run.elements (run : Run q late last) (orderly : q.Orderly)
    : last.Orderly
      ∧ q.state.ring.toList ++ (storedBy late).map Prod.snd
        = (takenBy late).map Prod.snd ++ last.state.ring.toList := by
  induction run with
  | start => exact ⟨orderly, List.append_nil _⟩
  | @step history last turn before made ih =>
    obtain ⟨known, order⟩ := ih
    have moved
        : ∀ (values : List α), (values.map (Prod.mk turn.thread)).map Prod.snd = values :=
      fun values => (List.map_map ..).trans (List.map_id values)
    refine ⟨known.transition (.of_step? made), ?_⟩
    simp only [storedBy, takenBy, List.flatMap_append, List.flatMap_singleton, List.map_append,
      moved] at order ⊢
    rw [← List.append_assoc, order, List.append_assoc, known.elements made, List.append_assoc]

/-- A run keeps the flag. -/
theorem Run.keepsClosed (run : Run q late last) (orderly : q.Orderly)
    (closed : q.state.closed = true)
    : last.state.closed = true := by
  induction run with
  | start => exact closed
  | step before made ih =>
    exact (before.elements orderly).1.keepsClosed (.of_step? made) ih

/-- A run keeps what is stable. -/
theorem Run.stable {M : Fifo α → Prop} (run : Run q late last) (orderly : q.Orderly)
    (stable : Fifo.Stable M) (meets : M q.fifo)
    : M last.fifo := by
  induction run with
  | start => exact meets
  | step before made ih =>
    exact (before.elements orderly).1.stable (.of_step? made) stable ih

/-- Nothing is stored in the course of a run from a closed queue. -/
theorem Run.stores_nothing (run : Run q late last) (orderly : q.Orderly)
    (closed : q.fifo.closed = true)
    : storedBy late = [] := by
  refine List.flatMap_eq_nil_iff.mpr fun turn member => ?_
  obtain ⟨early, before, rest, _, first, made, _⟩ := run.split member
  have still : before.fifo.closed = true := first.stable orderly Fifo.stable_closed closed
  rw [(first.elements orderly).1.stores_nothing still (.of_step? made), List.map_nil]

end

end Queue

end Conduit
