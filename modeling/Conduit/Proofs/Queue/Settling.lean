import Conduit.Proofs.Queue.Resting

/-! What one operation at a resting queue leads to once everybody whom it has woken has gone
on.
The woken threads are as many as there is something for, so each of them ends its call, in
whichever order they get the lock, and none of them wakes another one.
-/

namespace Conduit

variable {α : Type}

/-- An answer cannot make room and bring an element at once. -/
theorem Answer.admits_or (answer : Answer α) (side : Side)
    : answer.admits side = 0 ∨ answer.admits side.other = 0 := by
  cases answer with
  | push result | pop result | offered result | received result =>
    cases side <;> cases result <;> first | exact Or.inl rfl | exact Or.inr rfl
  | _ => cases side <;> first | exact Or.inl rfl | exact Or.inr rfl

namespace Fifo

/-- What a waiting operation ends with at a list that is closed or has something for it. -/
def release? (f : Fifo α) : Operation α → Option (Answer α)
  | .waitPush value _ =>
    some (.push (if f.closed then .error (.closed value) else .ok ()))
  | .waitPop _ =>
    some (.pop (match f.elements with
      | value :: _ => .ok value
      | [] => .error .closed))
  | _ => none

theorem release?_congr {f g : Fifo α} {operation : Operation α} (closed : f.closed = g.closed)
    (elements : operation.side? = some .consumer → f.elements = g.elements)
    : f.release? operation = g.release? operation := by
  cases operation with
  | waitPush => simp only [release?, closed]
  | waitPop => simp only [release?, elements rfl]
  | _ => rfl

/-- Whoever comes from its sleep to a list that is closed or has something for it ends at
once, whether or not its time is up.
-/
theorem serve_of_released {f : Fifo α} {operation : Operation α} {side : Side}
    (waits : operation.side? = some side) (expired : Bool)
    (ready : if f.closed then side = .consumer → f.elements = [] else 0 < f.available side)
    : ∃ answer after,
        f.serve expired operation = .answers answer after
        ∧ f.release? operation = some answer
        ∧ answer.isReported = false
        ∧ answer.admits side = 0
        ∧ answer.admits side.other = (if f.closed then 0 else 1)
        ∧ (f.closed = true → after = f) := by
  cases operation with
  | waitPush value timeout =>
    cases waits
    cases closed : f.closed with
    | true =>
      exact ⟨_, f, push_of_closed closed value _, by simp [release?, closed], rfl,
        rfl, rfl, fun _ => rfl⟩
    | false =>
      rw [closed] at ready
      have room : f.elements.length < f.config.capacity := Nat.lt_of_sub_pos ready
      refine ⟨.push (.ok ()), { f with elements := f.elements ++ [value] }, ?_,
        by simp [release?, closed], rfl, rfl, rfl, fun closed => by cases closed⟩
      simp only [serve, push, closed, if_pos room, Bool.false_eq_true, if_false]
  | waitPop timeout =>
    cases waits
    cases closed : f.closed with
    | true =>
      rw [closed] at ready
      have none := ready rfl
      refine ⟨.pop (.error .closed), f, ?_, by simp [release?, none], rfl, rfl, rfl,
        fun _ => rfl⟩
      simp only [serve, pop, none, closed, if_true]
    | false =>
      rw [closed] at ready
      cases elements : f.elements with
      | nil =>
        simp only [available, elements] at ready
        cases ready
      | cons value rest =>
        refine ⟨.pop (.ok value), { f with elements := rest }, ?_,
          by simp [release?, elements], rfl, rfl, rfl, fun closed => by cases closed⟩
        simp only [serve, pop, elements]
  | _ => cases waits

end Fifo

namespace Queue

-----------------------------------------------------------------------------------------
-- The woken threads after the operation
-----------------------------------------------------------------------------------------

/-- A queue after an operation as its woken threads find it: it is closed, or there is
something for each of them, and nobody sleeps on the other side.
-/
structure Ready (done : Queue α) : Prop where
  marked : done.state.closed = done.fifo.closed
  oneSide
    : done.fifo.closed = false
      → ∀ side, 0 < done.woken side → done.joined side.other = 0 ∧ done.woken side.other = 0
  room : done.fifo.closed = false → ∀ side, done.woken side ≤ done.fifo.available side
  single : done.fifo.closed = false → done.woken .consumer ≤ 1
  empty : done.fifo.closed = true → 0 < done.woken .consumer → done.state.ring.toList = []

/-- An operation leaves its queue ready for those whom it has woken. -/
theorem Performed.ready {q done : Queue α} {thread : Nat} {operation : Operation α}
    {failing : Bool} {answer : Answer α}
    (performed : q.Performed thread operation failing answer done)
    (resting : q.Resting) (orderly : done.Orderly) (idle : done.phase? thread = some .idle)
    : done.Ready := by
  have positive
      : ∀ side, 0 < done.woken side → 0 < q.parked side := by
    intro side woken
    have total := performed.total side
    omega
  have marked : done.state.closed = done.fifo.closed := by
    change _ = (done.state.closed || done.poisoned)
    cases poisoned : done.poisoned with
    | false => rw [Bool.or_false]
    | true =>
      rcases orderly.excused poisoned with closed | ⟨failed, call, failing⟩
      · rw [closed]
        rfl
      · have different : failed ≠ thread := by
          intro same
          subst same
          cases idle.symm.trans failing
        rcases performed.others different with same | ⟨_, _, _, woken⟩
        · cases resting.quiet.rests (same.symm.trans failing)
        · cases failing.symm.trans woken
  refine ⟨marked, ?_, ?_, ?_, ?_⟩
  · intro _ side woken
    have total := performed.total side.other
    rw [resting.oneSide side (positive side woken)] at total
    omega
  · intro isOpen side
    have woken := performed.woken side
    rw [marked, isOpen, if_neg Bool.false_ne_true] at woken
    by_cases anybody : 0 < done.woken side
    · have available := performed.available side
      rw [resting.nothing side (positive side anybody)] at available
      rcases answer.admits_or side with none | none <;> omega
    · omega
  · intro isOpen
    have woken := performed.woken .consumer
    rw [marked, isOpen, if_neg Bool.false_ne_true] at woken
    have one : answer.admits .consumer ≤ 1 := by
      cases accepted : answer.isAccepted <;> simp [Answer.admits, accepted]
    omega
  · intro closed woken
    have none : q.state.ring.toList = [] :=
      List.eq_nil_of_length_eq_zero (resting.nothing .consumer (positive _ woken))
    have nothing : answer.accepted operation = [] := by
      rcases performed.closed.mp closed with rfl | ⟨rfl, _⟩
      · unfold Answer.accepted
        split <;> rfl
      · exact accepted_of_refused rfl operation
    have elements := performed.elements
    rw [none, nothing, List.append_nil] at elements
    exact (List.append_eq_nil_iff.mp elements.symm).2

/-- Whether a step ends a call that has slept on the given side of `q`. -/
def completes (q : Queue α) (side : Side) (turn : Turn α) : Bool :=
  turn.progress.answer.isSome && sleeps q.phases side turn.thread

/-- Where a thread can be while the woken ones go on, `q` being the queue at rest and `done`
the one after the operation.
-/
def Place (q done : Queue α) (thread : Nat) : Phase α → Prop
  | .idle => True
  | .parked side call | .woken side call => q.phase? thread = some (.parked side call)
  | .inside call outcome reporting =>
    reporting = false
    ∧ ∃ side answer,
      q.phase? thread = some (.parked side call)
      ∧ outcome = .answered answer
      ∧ done.fifo.release? call.operation = some answer
  | .arrived _ | .failing _ | .stumbling .. => False

/-- What holds while the woken threads go on. Whoever has been woken is yet to take the
lock, or has it, or has ended its call with what the list had for it after the operation;
the sleepers sleep on, and the elements follow from how many have gone on.
-/
structure Settling (q done : Queue α) (settling : List (Turn α)) (m : Queue α) : Prop where
  orderly : m.Orderly
  tracked : ∀ side, m.Tracked side
  closed : m.state.closed = done.fifo.closed
  list : m.fifo.closed = done.fifo.closed
  places : ∀ {thread phase}, m.phase? thread = some phase → q.Place done thread phase
  joined : ∀ side, m.joined side = done.joined side
  fewer : ∀ side, m.woken side ≤ done.woken side
  room : done.fifo.closed = false → ∀ side, m.woken side ≤ m.fifo.available side
  same
    : done.fifo.closed = true ∨ 0 < m.woken .consumer
      → m.state.ring.toList = done.state.ring.toList
  lengths
    : done.fifo.closed = false
      → m.state.ring.toList.length + (done.woken .consumer + m.woken .producer)
        = done.state.ring.toList.length + (done.woken .producer + m.woken .consumer)
  steps
    : settling.length + m.holder.toList.length + 2 * (m.woken .producer + m.woken .consumer)
      = 2 * (done.woken .producer + done.woken .consumer)
  completed
    : ∀ side,
        settling.countP (q.completes side) + m.holder.toList.countP (sleeps q.phases side)
          + m.woken side
        = done.woken side
  answers
    : ∀ turn ∈ settling,
        ∀ answer,
          turn.progress.answer = some answer
          → m.phase? turn.thread = some .idle
            ∧ ∃ side call,
              q.phase? turn.thread = some (.parked side call)
              ∧ done.fifo.release? call.operation = some answer
  once : ((settling.filter fun turn => turn.progress.answer.isSome).map Turn.thread).Nodup

section
variable {q done m : Queue α} {settling : List (Turn α)}

/-- A thread that has slept on one side has not slept on the other one. -/
theorem sleeps_eq {thread : Nat} {slept : Side} {call : Call α}
    (parked : q.phase? thread = some (.parked slept call)) (side : Side)
    : sleeps q.phases side thread = decide (slept = side) := by
  have here : q.phases[thread]? = some (.parked slept call) := parked
  rw [sleeps, here]
  rfl

/-- What a woken thread of `side` does when it gets the lock of `m`, where the list was left
by an operation as in `done`: it ends with what the list has for it and wakes nobody.
-/
structure Resumes (done m : Queue α) (thread : Nat) (side : Side) (call : Call α)
    (progress : Progress α) : Prop where
  answer : progress.answer = none
  holder : progress.queue.holder = some thread
  inside
    : ∃ answer,
        done.fifo.release? call.operation = some answer
        ∧ progress.queue.phase? thread = some (.inside call (.answered answer) false)
  closed : progress.queue.state.closed = done.fifo.closed
  list : progress.queue.fifo.closed = done.fifo.closed
  same
    : done.fifo.closed = true → progress.queue.state.ring.toList = m.state.ring.toList
  moved
    : done.fifo.closed = false
      → progress.queue.fifo.available side + 1 = m.fifo.available side
        ∧ progress.queue.fifo.available side.other = m.fifo.available side.other + 1
  joined : ∀ other, progress.queue.joined other = m.joined other
  woken
    : ∀ other,
        progress.queue.woken other + (decide (side = other)).toNat = m.woken other

/-- A woken thread comes to a list that is closed or has something for it. -/
theorem Settling.something (settles : q.Settling done settling m) (ready : done.Ready)
    {side : Side} (present : 0 < m.woken side)
    : if m.fifo.closed then side = .consumer → m.fifo.elements = []
      else 0 < m.fifo.available side := by
  rw [settles.list]
  split
  · rename_i closed
    intro consumer
    subst consumer
    have before := settles.same (Or.inr present)
    exact before.trans (ready.empty closed (Nat.lt_of_lt_of_le present (settles.fewer _)))
  · rename_i isOpen
    exact Nat.lt_of_lt_of_le present (settles.room (Bool.eq_false_iff.mpr isOpen) side)

/-- The work of a woken thread: it ends with what the list has for it after the operation,
which no event reports and which leaves nothing more for its own side.
-/
structure Released (done m : Queue α) (side : Side) (operation : Operation α)
    (work : Section α (Outcome α)) (answer : Answer α) : Prop where
  result : work.result = .answered answer
  due : done.fifo.release? operation = some answer
  unreported : answer.isReported = false
  own : answer.admits side = 0
  other : answer.admits side.other = if done.fifo.closed then 0 else 1
  closed : work.state.closed = done.fifo.closed
  same : done.fifo.closed = true → work.state.ring.toList = m.state.ring.toList

theorem Settling.released (settles : q.Settling done settling m) (ready : done.Ready)
    (now : Nat) {thread : Nat} {side : Side} {call : Call α}
    (woken : m.phase? thread = some (.woken side call))
    : ∃ answer,
        Released done m side call.operation (m.work now call (some side)) answer := by
  have orderly := settles.orderly
  have waits : call.operation.side? = some side := orderly.fits woken
  have present : 0 < m.woken side :=
    countP_pos_of_getElem? woken (by simp [Phase.isWoken])
  obtain ⟨answer, after, served, released, unreported, own, other, kept⟩ :=
    Fifo.serve_of_released waits (expired call.deadline now) (settles.something ready present)
  rw [settles.list] at other
  have due : done.fifo.release? call.operation = some answer := by
    rw [← released]
    refine Fifo.release?_congr settles.list.symm fun consumes => ?_
    obtain rfl := Option.some.inj (waits.symm.trans consumes)
    exact (settles.same (Or.inr present)).symm
  have response := (worked_of_work orderly.sound now call (some side)
    (orderly.came woken)).2.response
  rw [served, Section.response] at response
  cases result : (m.work now call (some side)).result with
  | waits =>
    rw [result] at response
    cases response
  | answered given =>
    rw [result] at response
    obtain ⟨rfl, rfl⟩ := Fifo.Response.answers.inj response
    refine ⟨_, result, due, unreported, own, other, ?_, fun shut => ?_⟩
    · have still := (Fifo.served_of_serve served).closed
      have careful : call.operation.isClose = false := by
        cases operation : call.operation with
        | close =>
          rw [operation] at waits
          cases waits
        | _ => rfl
      rw [careful, Bool.or_false, settles.list] at still
      exact still
    · exact congrArg Fifo.elements (kept (settles.list.trans shut))

/-- A woken thread that gets the lock wakes nobody: nobody else sleeps whom its answer could
wake.
-/
theorem Settling.wakes_nobody (settles : q.Settling done settling m) (ready : done.Ready)
    {now thread : Nat} {side : Side} {call : Call α}
    (woken : m.phase? thread = some (.woken side call)) (free : m.holder = none)
    (preferred : List Nat) {answer : Answer α}
    (released : Released done m side call.operation (m.work now call (some side)) answer)
    (across : Side)
    : (m.enterWith thread call preferred (m.work now call (some side))).queue.joined across
        = m.joined across
      ∧ (m.enterWith thread call preferred (m.work now call (some side))).queue.woken across
          + (decide (side = across)).toNat
        = m.woken across := by
  have orderly := settles.orderly
  have present : 0 < m.woken side :=
    countP_pos_of_getElem? woken (by simp [Phase.isWoken])
  have worked := (worked_of_work orderly.sound now call (some side) (orderly.came woken)).1
  obtain ⟨left, total⟩ := orderly.counts_enterWith free woken (fun _ => rfl) call preferred
    (m.work now call (some side)) across
  rw [worked.asleep across _ (settles.tracked across).silent, released.closed,
    released.result] at left
  rw [released.result] at total
  simp only [Outcome.isWait, Bool.toNat_false, Nat.add_zero, Phase.isWoken, Outcome.admits]
    at left total
  have stays
      : (m.enterWith thread call preferred (m.work now call (some side))).queue.joined across
        = m.joined across := by
    rw [left]
    split
    · rename_i shut
      exact ((settles.tracked across).silent (settles.closed.trans shut)).symm
    · rename_i isOpen
      by_cases same : across = side
      · rw [same, released.own, Nat.min_zero, Nat.sub_zero]
      · have opposite : across = side.other := by
          cases across <;> cases side <;> first | rfl | exact absurd rfl same
        have nobody := (ready.oneSide (Bool.eq_false_iff.mpr isOpen) side
          (Nat.lt_of_lt_of_le present (settles.fewer side))).1
        rw [opposite, settles.joined, nobody, Nat.zero_sub]
  refine ⟨stays, ?_⟩
  rw [stays] at total
  omega

/-- A woken thread that gets the lock has something to do. -/
theorem Settling.resumes (settles : q.Settling done settling m) (ready : done.Ready)
    {now thread : Nat} {side : Side} {call : Call α}
    (woken : m.phase? thread = some (.woken side call)) (free : m.holder = none)
    (preferred : List Nat)
    : Resumes done m thread side call
        (m.enterWith thread call preferred (m.work now call (some side))) := by
  have orderly := settles.orderly
  obtain ⟨answer, released⟩ := settles.released ready now woken
  have worked := (worked_of_work orderly.sound now call (some side) (orderly.came woken)).1
  have list := fifo_enterWith worked thread call preferred
  have counts := settles.wakes_nobody ready woken free preferred released
  refine ⟨rfl, rfl, ⟨answer, released.due, ?_⟩, released.closed, ?_, released.same, ?_,
    fun other => (counts other).1, fun other => (counts other).2⟩
  · have quiet : canFail (m.work now call (some side)).events = false := by
      rw [Bool.eq_false_iff]
      intro loud
      obtain ⟨given, same, reported⟩ := worked.quiet loud
      obtain rfl := Outcome.answered.inj (released.result.symm.trans same)
      cases released.unreported.symm.trans reported
    rw [phase?_enterWith_self woken, entered, released.result, quiet]
  · rw [list]
    exact released.closed
  · intro isOpen
    have other := released.other
    rw [isOpen, if_neg Bool.false_ne_true] at other
    have here := worked.available side
    have there := worked.available side.other
    have twice : side.other.other = side := by cases side <;> rfl
    rw [released.result] at here there
    simp only [Outcome.admits, released.own, other, twice] at here there
    rw [list]
    exact ⟨here, there⟩

section
variable {turn : Turn α} {side : Side} {call : Call α}

/-- There is still something for each of the threads that are left. -/
theorem Settling.room_enter (settles : q.Settling done settling m)
    (resumes : Resumes done m turn.thread side call turn.progress)
    (isOpen : done.fifo.closed = false) (other : Side)
    : turn.progress.queue.woken other ≤ turn.progress.queue.fifo.available other := by
  obtain ⟨here, there⟩ := resumes.moved isOpen
  have enough := settles.room isOpen other
  have fewer := resumes.woken other
  by_cases same : side = other
  · subst same
    rw [decide_eq_true rfl, Bool.toNat_true] at fewer
    omega
  · have opposite : other = side.other := by
      cases other <;> cases side <;> first | rfl | exact absurd rfl same
    subst opposite
    omega

/-- While a consumer is yet to go on, or if the queue is closed, the elements are those that
the operation has left: the one consumer that has been woken is the thread itself, if any.
-/
theorem Settling.same_enter (settles : q.Settling done settling m) (ready : done.Ready)
    (woken : m.phase? turn.thread = some (.woken side call))
    (resumes : Resumes done m turn.thread side call turn.progress)
    (cause : done.fifo.closed = true ∨ 0 < turn.progress.queue.woken .consumer)
    : turn.progress.queue.state.ring.toList = done.state.ring.toList := by
  have present : 0 < m.woken side :=
    countP_pos_of_getElem? woken (by simp [Phase.isWoken])
  have some_woken : 0 < done.woken side := Nat.lt_of_lt_of_le present (settles.fewer side)
  cases closed : done.fifo.closed with
  | true => exact (resumes.same closed).trans (settles.same (Or.inl closed))
  | false =>
    have more := cause.resolve_left (by rw [closed]; exact Bool.false_ne_true)
    have fewer := resumes.woken .consumer
    have few := settles.fewer .consumer
    have single := ready.single closed
    cases side with
    | producer =>
      have none : done.woken .consumer = 0 := (ready.oneSide closed .producer some_woken).2
      omega
    | consumer =>
      rw [decide_eq_true rfl, Bool.toNat_true] at fewer
      omega

/-- The number of elements follows from how many have gone on. -/
theorem Settling.lengths_enter (settles : q.Settling done settling m)
    (resumes : Resumes done m turn.thread side call turn.progress)
    (isOpen : done.fifo.closed = false)
    : turn.progress.queue.state.ring.toList.length
          + (done.woken .consumer + turn.progress.queue.woken .producer)
        = done.state.ring.toList.length
          + (done.woken .producer + turn.progress.queue.woken .consumer) := by
  obtain ⟨here, there⟩ := resumes.moved isOpen
  have lengths := settles.lengths isOpen
  have producers := resumes.woken .producer
  have consumers := resumes.woken .consumer
  cases side with
  | producer =>
    have there : turn.progress.queue.state.ring.toList.length
      = m.state.ring.toList.length + 1 := there
    simp at producers consumers
    omega
  | consumer =>
    have here : turn.progress.queue.state.ring.toList.length + 1
      = m.state.ring.toList.length := here
    simp at producers consumers
    omega

/-- Whoever has ended its call is left alone by a thread that takes the lock. -/
theorem Settling.answers_enter (settles : q.Settling done settling m)
    (transition : m.Transition turn.now turn.thread turn.move turn.progress)
    (woken : m.phase? turn.thread = some (.woken side call))
    (unanswered : turn.progress.answer = none) {old : Turn α}
    (member : old ∈ settling ++ [turn]) {answer : Answer α}
    (answered : old.progress.answer = some answer)
    : turn.progress.queue.phase? old.thread = some .idle
      ∧ ∃ side call,
        q.phase? old.thread = some (.parked side call)
        ∧ done.fifo.release? call.operation = some answer := by
  rcases List.mem_append.mp member with earlier | newest
  · obtain ⟨idle, cause⟩ := settles.answers old earlier answer answered
    refine ⟨?_, cause⟩
    have different : old.thread ≠ turn.thread := by
      intro same
      rw [same] at idle
      cases idle.symm.trans woken
    rcases transition.others different with kept | ⟨_, _, parked, _⟩
    · exact kept.trans idle
    · cases idle.symm.trans parked
  · obtain rfl := List.mem_singleton.mp newest
    cases unanswered.symm.trans answered

end

/-- A woken thread takes the lock. -/
theorem Settling.enter (settles : q.Settling done settling m) (ready : done.Ready)
    {turn : Turn α} {side : Side} {call : Call α}
    (transition : m.Transition turn.now turn.thread turn.move turn.progress)
    (woken : m.phase? turn.thread = some (.woken side call)) (free : m.holder = none)
    (resumes : Resumes done m turn.thread side call turn.progress)
    : q.Settling done (settling ++ [turn]) turn.progress.queue := by
  have orderly := settles.orderly
  have parked : q.phase? turn.thread = some (.parked side call) := settles.places woken
  have wakes := resumes.woken
  have unanswered : turn.progress.answer.isSome = false := by
    rw [resumes.answer]
    rfl
  refine ⟨orderly.transition transition,
    fun side => (settles.tracked side).shift orderly (orderly.shift transition),
    resumes.closed, resumes.list, ?places,
    fun other => (resumes.joined other).trans (settles.joined other), ?fewer,
    settles.room_enter resumes, settles.same_enter ready woken resumes,
    settles.lengths_enter resumes, ?steps, ?completed, ?answers, ?once⟩
  case places =>
    intro other phase found
    by_cases same : other = turn.thread
    · subst same
      obtain ⟨answer, released, inside⟩ := resumes.inside
      obtain rfl := Option.some.inj (inside.symm.trans found)
      exact ⟨rfl, side, answer, parked, rfl, released⟩
    · rcases transition.others same with kept | ⟨slept, asleep, before, awake⟩
      · exact settles.places (kept.symm.trans found)
      · obtain rfl := Option.some.inj (awake.symm.trans found)
        have sleeper : q.phase? other = some (.parked slept asleep) := settles.places before
        exact sleeper
  case fewer =>
    intro other
    have := wakes other
    have := settles.fewer other
    omega
  case steps =>
    have steps := settles.steps
    have producers := wakes .producer
    have consumers := wakes .consumer
    rw [free] at steps
    rw [resumes.holder]
    cases side <;> simp at producers consumers steps ⊢ <;> omega
  case completed =>
    intro other
    have completed := settles.completed other
    have fewer := wakes other
    rw [free] at completed
    rw [resumes.holder]
    have silent : q.completes other turn = false := by
      rw [completes, unanswered, Bool.false_and]
    simp only [Option.toList_none, Option.toList_some, List.countP_nil, List.countP_append,
      List.countP_singleton, sleeps_eq parked other, silent] at completed ⊢
    cases same : decide (side = other) <;> rw [same] at fewer <;> simp at fewer ⊢ <;> omega
  case answers =>
    exact fun old member answer answered =>
      settles.answers_enter transition woken resumes.answer member answered
  case once =>
    have same
        : (settling ++ [turn]).filter (fun turn => turn.progress.answer.isSome)
          = settling.filter fun turn => turn.progress.answer.isSome := by
      rw [List.filter_append, List.filter_cons_of_neg (by simp [unanswered]), List.filter_nil,
        List.append_nil]
    rw [same]
    exact settles.once

/-- A thread that has been woken and had the lock ends its call. -/
theorem Settling.leave (settles : q.Settling done settling m) {now thread : Nat}
    {call : Call α} {answer : Answer α} {reporting : Bool}
    (inside : m.phase? thread = some (.inside call (.answered answer) reporting))
    : q.Settling done
        (settling
          ++ [⟨now, thread, .leave,
            { queue := { m with holder := none }.setPhase thread .idle
              answer := some answer }⟩])
        ({ m with holder := none }.setPhase thread .idle) := by
  have orderly := settles.orderly
  have transition : m.Transition now thread .leave _ := .ends inside
  have held := (orderly.fits inside).1
  obtain ⟨_, side, given, parked, same, released⟩ := settles.places inside
  obtain rfl := Outcome.answered.inj same
  have phases
      : ({ m with holder := none }.setPhase thread .idle).phases
        = m.phases.set thread .idle := rfl
  have counts := counts_kept inside phases fun _ => ⟨rfl, rfl⟩
  have woken := fun side => (counts side).2
  refine ⟨orderly.transition transition,
    fun side => (settles.tracked side).shift orderly (orderly.shift transition),
    settles.closed, settles.list, ?places,
    fun side => (counts side).1.trans (settles.joined side),
    fun side => ?fewer, fun isOpen side => ?room, fun cause => ?same, fun isOpen => ?lengths,
    ?steps, fun side => ?completed, ?answers, ?once⟩
  case places =>
    intro other phase found
    rcases phase?_setPhase_cases found with ⟨rfl, rfl⟩ | ⟨_, before⟩
    · trivial
    · exact settles.places before
  case fewer =>
    rw [woken]
    exact settles.fewer side
  case room =>
    rw [woken]
    exact settles.room isOpen side
  case same =>
    rw [woken] at cause
    exact settles.same cause
  case lengths =>
    rw [woken, woken]
    exact settles.lengths isOpen
  case steps =>
    have steps := settles.steps
    rw [held] at steps
    rw [woken, woken, List.length_append]
    exact steps
  case completed =>
    have completed := settles.completed side
    rw [held] at completed
    rw [woken, List.countP_append]
    change _ + _ + [].countP _ + _ = _
    simpa [completes] using completed
  case answers =>
    intro old member given answered
    rcases List.mem_append.mp member with earlier | newest
    · obtain ⟨idle, cause⟩ := settles.answers old earlier given answered
      have different : old.thread ≠ thread := by
        intro same
        rw [same] at idle
        cases idle.symm.trans inside
      exact ⟨(phase?_setPhase_other _ different _).trans idle, cause⟩
    · obtain rfl := List.mem_singleton.mp newest
      obtain rfl := Option.some.inj answered
      exact ⟨phase?_setPhase_self inside _, side, call, parked, released⟩
  case once =>
    rw [List.filter_append, List.map_append]
    refine List.nodup_append.mpr ⟨settles.once, by simp, ?_⟩
    intro other before last newest same
    obtain ⟨old, member, rfl⟩ := List.mem_map.mp before
    obtain ⟨given, answered⟩ := Option.isSome_iff_exists.mp (List.mem_filter.mp member).2
    have idle := (settles.answers old (List.mem_filter.mp member).1 given answered).1
    obtain rfl : last = thread := by simpa using newest
    rw [same] at idle
    cases idle.symm.trans inside

/-- When the operation has ended, nobody whom it has woken has gone on. -/
theorem Performed.settles {thread : Nat} {operation : Operation α} {failing : Bool}
    {answer : Answer α} (performed : q.Performed thread operation failing answer done)
    (resting : q.Resting)
    (orderly : done.Orderly) (tracked : ∀ side, done.Tracked side) (free : done.holder = none)
    (idle : done.phase? thread = some .idle)
    : q.Settling done [] done := by
  have ready := performed.ready resting orderly idle
  refine ⟨orderly, tracked, ready.marked, rfl, ?places, fun _ => rfl, fun _ => Nat.le_refl _,
    ready.room, fun _ => rfl, fun _ => congrArg _ (Nat.add_comm _ _), ?steps,
    fun side => ?completed, ?answers, List.nodup_nil⟩
  case places =>
    intro other phase found
    by_cases same : other = thread
    · subst same
      obtain rfl := Option.some.inj (idle.symm.trans found)
      trivial
    · rcases performed.others same with kept | ⟨side, call, parked, woken⟩
      · have before := kept.symm.trans found
        have rests := resting.quiet.rests before
        cases phase with
        | idle => trivial
        | parked => exact before
        | _ => cases rests
      · obtain rfl := Option.some.inj (woken.symm.trans found)
        exact parked
  case steps =>
    rw [free]
    simp
  case completed =>
    rw [free]
    simp
  case answers =>
    intro turn none
    cases none

/-- Every step of a thread that is awake goes on with the settling, by cases on where the
thread is.
-/
theorem Settling.step (settles : q.Settling done settling m) (ready : done.Ready)
    {turn : Turn α} (transition : m.Transition turn.now turn.thread turn.move turn.progress)
    (work : turn.move.isWork = true)
    : q.Settling done (settling ++ [turn]) turn.progress.queue := by
  obtain ⟨now, thread, move, progress⟩ := turn
  simp only at transition work ⊢
  have nowhere
      : ∀ {phase}, m.phase? thread = some phase → q.Place done thread phase := settles.places
  cases transition with
  | begins | stirs => cases work
  | inspects here | refuses here | cleansUp here => exact False.elim (nowhere here)
  | @enters preferred call sleptOn door free locks =>
    cases sleptOn with
    | none => exact False.elim (nowhere door)
    | some side =>
      have enters : m.Transition now thread (.enter preferred) _ :=
        .enters (some side) door free locks
      exact settles.enter ready enters door free
        (settles.resumes ready door free preferred)
  | ends inside => exact settles.leave inside
  | sleeps inside =>
    obtain ⟨_, _, _, _, same, _⟩ := nowhere inside
    cases same
  | @stumbles call sleptOn door free locks alarmed =>
    cases sleptOn with
    | none => exact False.elim (nowhere door)
    | some side =>
      -- The operation has left no lock behind that would still have to be seen to.
      obtain ⟨poisoned, isOpen⟩ := Bool.and_eq_true_iff.mp alarmed
      have closed : m.state.closed = true := by
        rw [settles.closed, ← settles.list]
        exact fifo_closed_of_poisoned poisoned
      rw [closed] at isOpen
      cases isOpen
  | fails here reports | failsGuarded here reports | failsAgain here reports =>
    rcases Phase.cases_of_atSink? reports with ⟨outcome, rfl⟩ | ⟨sleptOn, rfl⟩
    · obtain ⟨quiet, _⟩ := nowhere here
      cases quiet
    · exact False.elim (nowhere here)

/-- Settling goes on whatever the order of the steps, by induction on them. -/
theorem Run.settles {last : Queue α} (run : Run done settling last)
    (settles : q.Settling done [] done) (ready : done.Ready)
    (work : ∀ turn ∈ settling, turn.move.isWork = true)
    : q.Settling done settling last := by
  induction run with
  | start => exact settles
  | @step history m turn before made ih =>
    have earlier := ih fun turn member => work turn (List.mem_append_left _ member)
    exact earlier.step ready (.of_step? made)
      (work turn (List.mem_append_right _ (List.mem_singleton_self turn)))

/-- Where nothing moves any more nothing goes on: everybody who was woken has ended its
call.
-/
theorem Settling.quiescent (settles : q.Settling done settling m) (stalled : m.Stalled)
    : m.Quiescent where
  free := stalled.free settles.orderly
  rests := by
    intro thread phase found
    have place := settles.places found
    cases phase with
    | idle | parked => rfl
    | woken side call =>
      have none := stalled.woken_eq settles.orderly side
      have some : 0 < m.woken side :=
        countP_pos_of_getElem? found (by simp [Phase.isWoken])
      omega
    | inside =>
      cases settles.orderly.outside (stalled.free settles.orderly) found
    | arrived | failing | stumbling => exact False.elim place

end

-----------------------------------------------------------------------------------------
-- The outcome
-----------------------------------------------------------------------------------------

/-- How many sleepers of a side of `q` go on because of an operation that ends with `answer`
and leaves `done`: all of them if the queue is closed, and otherwise one for each slot or
element.
-/
def admitted (q : Queue α) (answer : Answer α) (done : Queue α) (side : Side) : Nat :=
  if done.fifo.closed then q.parked side else min (q.parked side) (answer.admits side)

/-- The outcome once nothing moves any more: nothing goes on, and the numbers of the calls
that have ended, of the sleepers that are left and of the elements follow from the answer of
the operation alone, as do the answers of the sleepers.
-/
structure Settled (q : Queue α) (operation : Operation α) (failing : Bool) (answer : Answer α)
    (done : Queue α) (settling : List (Turn α)) (last : Queue α) : Prop where
  quiescent : last.Quiescent
  steps
    : settling.length
      = 2 * (q.admitted answer done .producer + q.admitted answer done .consumer)
  completed : ∀ side, settling.countP (q.completes side) = q.admitted answer done side
  parked : ∀ side, last.parked side + q.admitted answer done side = q.parked side
  popped
    : ∀ value,
        answer = .pop (.ok value)
        → settling.countP (q.completes .producer) = min (q.parked .producer) 1
          ∧ settling.countP (q.completes .consumer) = 0
          ∧ (∀ turn ∈ settling,
              ∀ given, turn.progress.answer = some given → given = .push (.ok ()))
          ∧ last.state.ring.length + 1 = q.state.ring.length + min (q.parked .producer) 1
  drained
    : ∀ values,
        answer = .drained values
        → settling.countP (q.completes .producer) = min (q.parked .producer) values.length
          ∧ settling.countP (q.completes .consumer) = 0
          ∧ (∀ turn ∈ settling,
              ∀ given, turn.progress.answer = some given → given = .push (.ok ()))
          ∧ last.state.ring.length = min (q.parked .producer) values.length
  pushed
    : answer = .push (.ok ())
      → ∃ value,
        operation.offered? = some value
        ∧ settling.countP (q.completes .consumer) = min (q.parked .consumer) 1
        ∧ settling.countP (q.completes .producer) = 0
        ∧ (∀ turn ∈ settling,
            ∀ given, turn.progress.answer = some given → given = .pop (.ok value))
        ∧ last.state.ring.length + min (q.parked .consumer) 1 = q.state.ring.length + 1
  closed
    : Shuts operation failing answer
      → (∀ side, settling.countP (q.completes side) = q.parked side ∧ last.parked side = 0)
        ∧ (∀ turn ∈ settling,
            ∀ given,
              turn.progress.answer = some given
              → ∃ side call,
                q.phase? turn.thread = some (.parked side call)
                ∧ ((∃ value timeout,
                      call.operation = .waitPush value timeout
                      ∧ given = .push (.error (.closed value)))
                  ∨ ∃ timeout,
                    call.operation = .waitPop timeout ∧ given = .pop (.error .closed)))
        ∧ last.state.ring.toList = q.state.ring.toList
  otherwise
    : answer.isAccepted = false
      → answer.handedOut = []
      → ¬Shuts operation failing answer
      → settling = []
        ∧ (∀ side, last.parked side = q.parked side)
        ∧ last.state.ring.toList = q.state.ring.toList

/-- What is known of the steps of those whom an operation has woken: they are limited in
number, every call ends once, and every answer is what the list had for a sleeper after the
operation. Once nothing moves any more, there is only one outcome.
-/
structure Settles (q : Queue α) (operation : Operation α) (failing : Bool) (answer : Answer α)
    (done : Queue α) (settling : List (Turn α)) (last : Queue α) : Prop where
  closing : done.fifo.closed = true ↔ Shuts operation failing answer
  bounded : settling.length ≤ 2 * (q.parked .producer + q.parked .consumer)
  once : ((settling.filter fun turn => turn.progress.answer.isSome).map Turn.thread).Nodup
  answers
    : ∀ turn ∈ settling,
        ∀ given,
          turn.progress.answer = some given
          → ∃ side call,
            q.phase? turn.thread = some (.parked side call)
            ∧ done.fifo.release? call.operation = some given
  stops : last.Stalled → q.Settled operation failing answer done settling last

section
variable {q done last : Queue α} {thread : Nat} {operation : Operation α} {failing : Bool}
  {answer : Answer α} {settling : List (Turn α)}

theorem Performed.woken_eq (performed : q.Performed thread operation failing answer done)
    (ready : done.Ready) (side : Side)
    : done.woken side = q.admitted answer done side := by
  rw [performed.woken, ready.marked]
  rfl

/-- While the queue is open, exactly as many go on as the answer makes room or brings elements
for.
-/
theorem admitted_of_open (isOpen : done.fifo.closed = false) (side : Side)
    : q.admitted answer done side = min (q.parked side) (answer.admits side) :=
  if_neg (by rw [isOpen]; exact Bool.false_ne_true)

/-- A step that ends the call of a sleeper is counted on its side. -/
theorem Settling.counted (settles : q.Settling done settling last) (resting : q.Resting)
    {turn : Turn α} (member : turn ∈ settling) {given : Answer α}
    (answered : turn.progress.answer = some given)
    : ∃ side call,
        q.phase? turn.thread = some (.parked side call)
        ∧ call.operation.side? = some side
        ∧ done.fifo.release? call.operation = some given
        ∧ 0 < settling.countP (q.completes side) := by
  obtain ⟨_, side, call, parked, released⟩ := settles.answers turn member given answered
  refine ⟨side, call, parked, resting.orderly.fits parked, released, ?_⟩
  refine List.countP_pos_iff.mpr ⟨turn, member, ?_⟩
  simp [completes, answered, sleeps_eq parked]

/-- Nobody but producers has gone on, and each of them has stored its value. -/
theorem Settling.all_stored (settles : q.Settling done settling last) (resting : q.Resting)
    (isOpen : done.fifo.closed = false) (none : settling.countP (q.completes .consumer) = 0)
    : ∀ turn ∈ settling,
        ∀ given, turn.progress.answer = some given → given = .push (.ok ()) := by
  intro turn member given answered
  obtain ⟨side, call, parked, waits, released, some⟩ := settles.counted resting member answered
  cases side with
  | consumer => omega
  | producer =>
    cases operation : call.operation with
    | waitPush value timeout =>
      simp only [operation, Fifo.release?, isOpen, Bool.false_eq_true, if_false] at released
      exact (Option.some.inj released).symm
    | _ =>
      rw [operation] at waits
      cases waits

/-- Nobody but consumers has gone on, and each of them has taken the first element. -/
theorem Settling.all_taken (settles : q.Settling done settling last) (resting : q.Resting)
    {value : α} {rest : List α} (elements : done.state.ring.toList = value :: rest)
    (none : settling.countP (q.completes .producer) = 0)
    : ∀ turn ∈ settling,
        ∀ given, turn.progress.answer = some given → given = .pop (.ok value) := by
  intro turn member given answered
  obtain ⟨side, call, parked, waits, released, some⟩ := settles.counted resting member answered
  have first : done.fifo.elements = value :: rest := elements
  cases side with
  | producer => omega
  | consumer =>
    cases operation : call.operation with
    | waitPop timeout =>
      simp only [operation, Fifo.release?, first] at released
      exact (Option.some.inj released).symm
    | _ =>
      rw [operation] at waits
      cases waits

/-- Whoever goes on at a closed queue learns that it is closed. -/
theorem Settling.all_closed (settles : q.Settling done settling last) (resting : q.Resting)
    (ready : done.Ready) (closed : done.fifo.closed = true)
    : ∀ turn ∈ settling,
        ∀ given,
          turn.progress.answer = some given
          → ∃ side call,
            q.phase? turn.thread = some (.parked side call)
            ∧ ((∃ value timeout,
                  call.operation = .waitPush value timeout
                  ∧ given = .push (.error (.closed value)))
              ∨ ∃ timeout,
                call.operation = .waitPop timeout ∧ given = .pop (.error .closed)) := by
  intro turn member given answered
  obtain ⟨side, call, parked, waits, released, some⟩ := settles.counted resting member answered
  refine ⟨side, call, parked, ?_⟩
  cases operation : call.operation with
  | waitPush value timeout =>
    simp only [operation, Fifo.release?, closed, if_true] at released
    exact Or.inl ⟨value, timeout, rfl, (Option.some.inj released).symm⟩
  | waitPop timeout =>
    rw [operation] at waits
    obtain rfl := Option.some.inj waits
    have woken : 0 < done.woken .consumer := by
      have completed := settles.completed .consumer
      omega
    have none : done.fifo.elements = [] := ready.empty closed woken
    simp only [operation, Fifo.release?, none] at released
    exact Or.inr ⟨timeout, rfl, (Option.some.inj released).symm⟩
  | _ =>
    rw [operation] at waits
    cases waits

/-- Answers that move values are given at an open queue. -/
theorem Performed.isOpen (performed : q.Performed thread operation failing answer done)
    (regular : answer ≠ .done) (healthy : answer ≠ .sinkFailed)
    : done.fifo.closed = false := by
  rw [Bool.eq_false_iff]
  intro closed
  rcases performed.closed.mp closed with closes | ⟨failed, _⟩
  · exact (performed.closes closes).elim regular healthy
  · exact healthy failed

/-- What is known once nothing moves any more, whatever the answer: as many sleepers have gone
on as the answer admits, and the number of elements follows.
-/
structure Stopped (q : Queue α) (answer : Answer α) (done : Queue α)
    (settling : List (Turn α)) (last : Queue α) : Prop where
  quiescent : last.Quiescent
  steps
    : settling.length
      = 2 * (q.admitted answer done .producer + q.admitted answer done .consumer)
  completed : ∀ side, settling.countP (q.completes side) = q.admitted answer done side
  parked : ∀ side, last.parked side + q.admitted answer done side = q.parked side
  lengths
    : done.fifo.closed = false
      → last.state.ring.length + (q.admitted answer done .consumer + answer.admits .producer)
        = q.state.ring.length + (q.admitted answer done .producer + answer.admits .consumer)
  left
    : done.fifo.closed = false
      → last.state.ring.length + q.admitted answer done .consumer
        = done.state.ring.toList.length + q.admitted answer done .producer

theorem Settling.stopped (settles : q.Settling done settling last) (resting : q.Resting)
    (performed : q.Performed thread operation failing answer done) (ready : done.Ready)
    (stalled : last.Stalled)
    : q.Stopped answer done settling last := by
  have quiet := settles.quiescent stalled
  have nobody := fun side => stalled.woken_eq settles.orderly side
  have length : ∀ {m : Queue α}, m.Orderly → m.state.ring.length = m.state.ring.toList.length :=
    fun orderly => (Ring.length_toList orderly.sound.valid).symm
  have left
      : done.fifo.closed = false
        → last.state.ring.length + q.admitted answer done .consumer
          = done.state.ring.toList.length + q.admitted answer done .producer := by
    intro isOpen
    have settled := settles.lengths isOpen
    rw [nobody, nobody, performed.woken_eq ready, performed.woken_eq ready] at settled
    rw [length settles.orderly]
    omega
  refine ⟨quiet, ?steps, fun side => ?completed, fun side => ?parked, fun isOpen => ?lengths,
    left⟩
  case steps =>
    have steps := settles.steps
    rw [quiet.free, nobody, nobody, performed.woken_eq ready, performed.woken_eq ready] at steps
    simpa using steps
  case completed =>
    have completed := settles.completed side
    rw [quiet.free, nobody] at completed
    rw [← performed.woken_eq ready]
    simpa using completed
  case parked =>
    have total := performed.total side
    have joined := settles.joined side
    rw [settles.orderly.joined_eq quiet.free] at joined
    rw [performed.woken_eq ready] at total
    omega
  case lengths =>
    have left := left isOpen
    have moved : done.state.ring.toList.length + answer.admits .producer
        = q.state.ring.toList.length + answer.admits .consumer := performed.available .consumer
    rw [length resting.orderly]
    omega

/-- After a pop that has got an element one producer goes on, if any sleeps. -/
theorem Stopped.popped (stopped : q.Stopped answer done settling last)
    (settles : q.Settling done settling last) (resting : q.Resting) {value : α}
    (isOpen : done.fifo.closed = false) (pops : answer = .pop (.ok value))
    : settling.countP (q.completes .producer) = min (q.parked .producer) 1
      ∧ settling.countP (q.completes .consumer) = 0
      ∧ (∀ turn ∈ settling,
          ∀ given, turn.progress.answer = some given → given = .push (.ok ()))
      ∧ last.state.ring.length + 1 = q.state.ring.length + min (q.parked .producer) 1 := by
  subst pops
  have lengths := stopped.lengths isOpen
  have producers := stopped.completed .producer
  have consumers := stopped.completed .consumer
  rw [admitted_of_open isOpen] at producers consumers
  rw [admitted_of_open isOpen, admitted_of_open isOpen] at lengths
  simp only [Answer.admits, Answer.handedOut, Answer.isAccepted, List.length_singleton,
    Bool.false_eq_true, if_false, Nat.min_zero] at producers consumers lengths
  exact ⟨producers, consumers, settles.all_stored resting isOpen consumers, by omega⟩

/-- After a drain as many producers go on as there were elements. -/
theorem Stopped.drained (stopped : q.Stopped answer done settling last)
    (settles : q.Settling done settling last) (resting : q.Resting) {values : List α}
    (isOpen : done.fifo.closed = false) (drains : answer = .drained values)
    (empty : done.state.ring.toList = [])
    : settling.countP (q.completes .producer) = min (q.parked .producer) values.length
      ∧ settling.countP (q.completes .consumer) = 0
      ∧ (∀ turn ∈ settling,
          ∀ given, turn.progress.answer = some given → given = .push (.ok ()))
      ∧ last.state.ring.length = min (q.parked .producer) values.length := by
  subst drains
  have left := stopped.left isOpen
  have producers := stopped.completed .producer
  have consumers := stopped.completed .consumer
  rw [admitted_of_open isOpen] at producers consumers
  rw [admitted_of_open isOpen, admitted_of_open isOpen, empty] at left
  simp only [Answer.admits, Answer.handedOut, Answer.isAccepted, Bool.false_eq_true, if_false,
    Nat.min_zero, List.length_nil] at producers consumers left
  exact ⟨producers, consumers, settles.all_stored resting isOpen consumers, by omega⟩

/-- After a push one consumer goes on, if any sleeps, and with just the value that has been
pushed: a consumer that goes on has slept at an empty queue, which holds nothing but that.
-/
theorem Stopped.pushed (stopped : q.Stopped answer done settling last)
    (settles : q.Settling done settling last) (resting : q.Resting)
    (performed : q.Performed thread operation failing answer done)
    (isOpen : done.fifo.closed = false) (pushes : answer = .push (.ok ()))
    : ∃ value,
        operation.offered? = some value
        ∧ settling.countP (q.completes .consumer) = min (q.parked .consumer) 1
        ∧ settling.countP (q.completes .producer) = 0
        ∧ (∀ turn ∈ settling,
            ∀ given, turn.progress.answer = some given → given = .pop (.ok value))
        ∧ last.state.ring.length + min (q.parked .consumer) 1 = q.state.ring.length + 1 := by
  subst pushes
  have lengths := stopped.lengths isOpen
  have producers := stopped.completed .producer
  have consumers := stopped.completed .consumer
  rw [admitted_of_open isOpen] at producers consumers
  rw [admitted_of_open isOpen, admitted_of_open isOpen] at lengths
  simp only [Answer.admits, Answer.handedOut, Answer.isAccepted, if_true, List.length_nil,
    Nat.min_zero] at producers consumers lengths
  obtain ⟨value, offers⟩ := performed.offers rfl
  refine ⟨value, offers, consumers, producers, ?_, by omega⟩
  intro turn member given answered
  obtain ⟨side, _, _, _, _, some⟩ := settles.counted resting member answered
  have anybody : 0 < q.parked .consumer := by
    cases side <;> omega
  have none : q.state.ring.toList = [] :=
    List.eq_nil_of_length_eq_zero (resting.nothing .consumer anybody)
  have stored : (Answer.push (.ok ())).accepted operation = [value] := by
    rw [Answer.accepted, offers]
    rfl
  have elements := performed.elements
  rw [none, stored] at elements
  exact settles.all_taken resting elements.symm producers turn member given answered

/-- After the closing everybody goes on, and the elements stay. -/
theorem Stopped.closed (stopped : q.Stopped answer done settling last)
    (settles : q.Settling done settling last) (resting : q.Resting)
    (performed : q.Performed thread operation failing answer done) (ready : done.Ready)
    (shuts : Shuts operation failing answer)
    : (∀ side, settling.countP (q.completes side) = q.parked side ∧ last.parked side = 0)
      ∧ (∀ turn ∈ settling,
          ∀ given,
            turn.progress.answer = some given
            → ∃ side call,
              q.phase? turn.thread = some (.parked side call)
              ∧ ((∃ value timeout,
                    call.operation = .waitPush value timeout
                    ∧ given = .push (.error (.closed value)))
                ∨ ∃ timeout,
                  call.operation = .waitPop timeout ∧ given = .pop (.error .closed)))
      ∧ last.state.ring.toList = q.state.ring.toList := by
  have closed := performed.closed.mpr shuts
  refine ⟨fun side => ?_, settles.all_closed resting ready closed, ?_⟩
  · have all : q.admitted answer done side = q.parked side := if_pos closed
    have completed := stopped.completed side
    have parked := stopped.parked side
    omega
  · have still : q.state.ring.toList = done.state.ring.toList := by
      have elements := performed.elements
      have kind : answer = .done ∨ answer = .sinkFailed :=
        shuts.elim performed.closes fun failed => Or.inr failed.1
      rcases kind with rfl | rfl <;>
        simpa [Answer.accepted, Answer.isAccepted, Answer.handedOut] using elements
    exact (settles.same (Or.inl closed)).trans still.symm

/-- After any other operation nobody goes on. -/
theorem Stopped.otherwise (stopped : q.Stopped answer done settling last)
    (run : Run done settling last)
    (performed : q.Performed thread operation failing answer done)
    (refused : answer.isAccepted = false) (nothing : answer.handedOut = [])
    (keeps : ¬Shuts operation failing answer)
    : settling = []
      ∧ (∀ side, last.parked side = q.parked side)
      ∧ last.state.ring.toList = q.state.ring.toList := by
  have isOpen : done.fifo.closed = false := by
    rw [Bool.eq_false_iff]
    exact fun closed => keeps (performed.closed.mp closed)
  have none : ∀ side, q.admitted answer done side = 0 := by
    intro side
    rw [admitted_of_open isOpen]
    cases side <;> simp [Answer.admits, refused, nothing]
  have nothingHappens : settling = [] := by
    have steps := stopped.steps
    rw [none, none] at steps
    exact List.eq_nil_of_length_eq_zero (by omega)
  subst nothingHappens
  obtain rfl := run.eq_of_nil
  refine ⟨rfl, fun side => ?_, ?_⟩
  · have parked := stopped.parked side
    rwa [none, Nat.add_zero] at parked
  · have elements := performed.elements
    rw [nothing, accepted_of_refused refused, List.append_nil] at elements
    exact elements.symm

/-- Once nothing moves any more there is only one outcome. -/
theorem Settling.settled (settles : q.Settling done settling last)
    (run : Run done settling last) (resting : q.Resting)
    (performed : q.Performed thread operation failing answer done) (ready : done.Ready)
    (stalled : last.Stalled)
    : q.Settled operation failing answer done settling last := by
  have stopped := settles.stopped resting performed ready stalled
  have moves : answer ≠ .done → answer ≠ .sinkFailed → done.fifo.closed = false :=
    performed.isOpen
  refine ⟨stopped.quiescent, stopped.steps, stopped.completed, stopped.parked, ?popped,
    ?drained, ?pushed, stopped.closed settles resting performed ready,
    stopped.otherwise run performed⟩
  case popped =>
    intro value pops
    have isOpen := moves (by rw [pops]; nofun) (by rw [pops]; nofun)
    exact stopped.popped settles resting isOpen pops
  case drained =>
    intro values drains
    have isOpen := moves (by rw [drains]; nofun) (by rw [drains]; nofun)
    exact stopped.drained settles resting isOpen drains (performed.empties values drains)
  case pushed =>
    intro pushes
    have isOpen := moves (by rw [pushes]; nofun) (by rw [pushes]; nofun)
    exact stopped.pushed settles resting performed isOpen pushes

/-- From every reachable state of an open queue in which nothing goes on, one operation and
the steps of those whom it wakes lead to one outcome, in whatever order these get the lock;
witness: each of them finds what the operation has left for it, and wakes nobody.
-/
theorem wakeups_settle {slotBytes threads : Nat} {clock : Clock} {config : Config}
    {values : List α}
    {fresh : Queue α} {history : List (Turn α)}
    (created : (ofConfigAndItems slotBytes config (.ofList values)).result = .ok fresh)
    (run : Run (fresh.withThreads clock threads) history q) (quiet : q.Quiescent)
    (isOpen : q.fifo.closed = false) {now : Nat} {first : Progress α}
    (begins : q.step? now thread (.call operation failing) = some first)
    {works : List (Turn α)} (performs : Run first.queue works done)
    (alone : ∀ turn ∈ works, turn.thread = thread ∧ turn.move.isWork = true)
    (answered : repliesTo works thread = [answer]) (settles : Run done settling last)
    (awake : ∀ turn ∈ settling, turn.move.isWork = true)
    : q.Settles operation failing answer done settling last := by
  have resting := run.resting created quiet isOpen
  obtain ⟨orderly, tracked, free, idle, performed⟩ :=
    resting.performed begins performs alone answered
  have ready := performed.ready resting orderly idle
  have settled :=
    settles.settles (performed.settles resting orderly tracked free idle) ready awake
  refine ⟨performed.closed, ?_, settled.once, ?_, fun stalled =>
    settled.settled settles resting performed ready stalled⟩
  · have steps := settled.steps
    have producers := performed.total .producer
    have consumers := performed.total .consumer
    omega
  · intro turn member given gives
    exact (settled.answers turn member given gives).2

end

/-- Three producers go to sleep at a queue with two slots. -/
def threeBlocked : List (Nat × Nat × Move Nat) :=
  [(0, 0, .call (.waitPush 3 .infinite) false), (0, 0, .enter []), (0, 0, .leave),
    (1, 1, .call (.waitPush 4 .infinite) false), (1, 1, .enter []), (1, 1, .leave),
    (2, 2, .call (.waitPush 5 .infinite) false), (2, 2, .enter []), (2, 2, .leave)]

/-- Somebody drains the queue and wakes the last and the first of them. -/
def drains : List (Nat × Nat × Move Nat) := [(3, 3, .enter [2, 0]), (3, 3, .leave)]

/-- The two get the lock in the other order. -/
def bothGoOn : List (Nat × Nat × Move Nat) :=
  [(4, 0, .enter []), (4, 0, .leave), (5, 2, .enter []), (5, 2, .leave)]

theorem quiescent_of_all {q : Queue α} (free : q.holder = none)
    (rests : q.phases.all Phase.rests = true)
    : q.Quiescent where
  free := free
  rests found := List.all_eq_true.mp rests _ (List.mem_of_getElem? found)

/-- The two slots are filled again, and the third producer sleeps on. -/
theorem wakeups_settle_drained
    : let start :=
        (ofRing (.ofCapacity 2) (((Ring.empty 2).pushed 1).pushed 2)).withThreads .ofWords 4
      let q := (start.play threeBlocked).2
      ∃ first,
        q.step? 3 3 (.call .drain false) = some first
        ∧ let done := first.queue.play drains
          let settled := done.2.play bothGoOn
          settled.2.state.ring.toList = [3, 5]
          ∧ settled.2.parked .producer = 1
          ∧ q.Settled .drain false (.drained [1, 2]) done.2 settled.1 settled.2 := by
  have created
      : (ofConfigAndItems 8 (.ofCapacity 2) (.ofList [1, 2])).result
        = .ok (ofRing (.ofCapacity 2) (((Ring.empty 2).pushed 1).pushed 2)) := rfl
  have begins
      : (((ofRing (.ofCapacity 2) (((Ring.empty 2).pushed 1).pushed 2)).withThreads
            .ofWords 4).play threeBlocked).2.step? 3 3 (.call .drain false)
        = some _ := rfl
  refine ⟨_, begins, rfl, rfl, ?_⟩
  refine (wakeups_settle created (.of_play _ threeBlocked) (quiescent_of_all rfl rfl) rfl begins
    (.of_play _ drains) ?_ rfl (.of_play _ bothGoOn) ?_).stops ?_
  · have alone : ∀ move ∈ drains, move.2.1 = 3 ∧ move.2.2.isWork = true := by decide
    exact fun turn member => alone _ (mem_of_play member)
  · have awake : ∀ move ∈ bothGoOn, move.2.2.isWork = true := by decide
    exact fun turn member => awake _ (mem_of_play member)
  · exact (quiescent_of_all rfl rfl).stalled

end Queue

end Conduit
