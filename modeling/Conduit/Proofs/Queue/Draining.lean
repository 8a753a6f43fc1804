import Conduit.Proofs.Queue.Suspension

/-! A drain is as many pops as there are elements, made in one stretch of work.
It counts the producers that it chooses all at once where each pop chooses its own, so the
two are compared element by element. Nobody else gets the lock before the drain has ended,
and so nothing that comes in because of it can be part of what it returns.
-/

namespace Conduit

variable {α : Type}

-----------------------------------------------------------------------------------------
-- The ring
-----------------------------------------------------------------------------------------

namespace Ring

/-- No more pops are made than there are elements, however many may be made. -/
theorem popAll_add {ring : Ring α} (valid : ring.Valid) {budget : Nat}
    (enough : ring.length ≤ budget) (more : Nat)
    : ring.popAll (budget + more) = ring.popAll budget := by
  induction budget generalizing ring with
  | zero =>
    have empty : ring.isEmpty = true := (isEmpty_iff valid).mpr (Nat.le_zero.mp enough)
    cases more with
    | zero => rfl
    | succ more =>
      rw [Nat.zero_add, popAll, popAll, popFront?_of_empty empty]
  | succ budget ih =>
    rw [Nat.add_right_comm, popAll, popAll]
    cases empty : ring.isEmpty with
    | true => rw [popFront?_of_empty empty]
    | false =>
      obtain ⟨value, pops, _⟩ := popFront?_eq valid empty
      have shorter := length_popped valid empty
      rw [pops]
      simp only [ih (valid_popped valid empty) (by omega)]

theorem drain_of_empty {ring : Ring α} (empty : ring.isEmpty = true)
    : ring.drain = ([], ring) := by
  rw [drain, slotCount, popAll, popFront?_of_empty empty]

/-- A drain is a pop and a drain of what that leaves. -/
theorem drain_of_popped {ring : Ring α} (valid : ring.Valid) {value : α}
    (pops : ring.popFront? = some (value, ring.popped)) (some : ring.isEmpty = false)
    : ring.drain = (value :: ring.popped.drain.1, ring.popped.drain.2) := by
  have shorter := length_popped valid some
  have bounded := length_le_capacity valid
  have enough : ring.popped.length ≤ ring.capacity := by omega
  have rest : ring.popped.drain = ring.popped.popAll ring.capacity :=
    popAll_add (valid_popped valid some) enough 1
  rw [drain, slotCount, popAll, pops, rest]

/-- A drain moves the pop index up to the push index. -/
theorem drain_indices {ring : Ring α} (valid : ring.Valid)
    : ring.drain.2.pushIndex = ring.pushIndex ∧ ring.drain.2.popIndex = ring.pushIndex := by
  generalize size : ring.length = count
  induction count generalizing ring with
  | zero =>
    have empty := (isEmpty_iff valid).mpr size
    rw [drain_of_empty empty]
    exact ⟨rfl, (beq_iff_eq.mp empty).symm⟩
  | succ count ih =>
    have some : ring.isEmpty = false := by
      rw [Bool.eq_false_iff]
      intro empty
      have none := (isEmpty_iff valid).mp empty
      omega
    obtain ⟨value, pops, _⟩ := popFront?_eq valid some
    have shorter := length_popped valid some
    rw [drain_of_popped valid pops some]
    exact ih (valid_popped valid some) (by omega)

end Ring

-----------------------------------------------------------------------------------------
-- Popping until there is nothing left
-----------------------------------------------------------------------------------------

/-- Choosing sleepers in two rounds, as many as there are of so many, is choosing them in
one.
-/
theorem Waiters.notify_min (w : Waiters) (first second : Nat)
    : (w.notify (min w.waiting first)).notify
          (min (w.waiting - min w.waiting first) second)
        = w.notify (min w.waiting (first + second))
      ∧ min w.waiting first + min (w.waiting - min w.waiting first) second
        = min w.waiting (first + second) := by
  refine ⟨?_, by omega⟩
  simp only [notify, mk.injEq]
  omega

namespace Guarded

/-- What is left behind by pops that are made within one stretch of work until one of them
finds nothing: the values that they took, oldest first, and all that they did on the way.
-/
inductive PopsOut : Guarded α → Section α (List α) → Prop
  | nothing {s} (none : s.popFront.result = none)
    : PopsOut s (s.popFront.map fun _ => [])
  | more {s value rest} (some : s.popFront.result = some value)
    (later : PopsOut s.popFront.state rest)
    : PopsOut s (s.popFront.andThen fun _ _ => rest.map (value :: ·))

/-- Such pops have one outcome at most, by induction on the first. -/
theorem PopsOut.unique {s : Guarded α} {left right : Section α (List α)}
    (first : s.PopsOut left) (second : s.PopsOut right)
    : left = right := by
  induction first generalizing right with
  | nothing none =>
    cases second with
    | nothing => rfl
    | more some => cases none.symm.trans some
  | more some _ ih =>
    cases second with
    | nothing none => cases none.symm.trans some
    | more other later =>
      obtain rfl := Option.some.inj (some.symm.trans other)
      rw [ih later]

section
variable {s : Guarded α} {config : Config}

theorem drain_of_nil (sound : s.Sound config) (elements : s.ring.toList = [])
    : s.drain = s.popFront.map fun _ => [] := by
  have empty := (Ring.toList_eq_nil sound.valid).mp elements
  rw [popFront_of_nil sound elements]
  simp only [drain, Ring.drain_of_empty empty, List.length_nil, Nat.min_zero]
  rfl

/-- A pop keeps the ring intact. -/
theorem sound_popFront (sound : s.Sound config) {value : α} {rest : List α}
    (elements : s.ring.toList = value :: rest)
    : s.popFront.state.Sound config ∧ s.popFront.state.ring.toList = rest := by
  obtain ⟨pops, valid, left⟩ := popFront_of_cons sound elements
  rw [pops]
  exact ⟨⟨valid, sound.capacity⟩, left⟩

/-- The first element of a drain is popped, and the drain goes on with what that leaves: the
producers chosen by both together are those that it chooses at once.
-/
theorem drain_of_cons (sound : s.Sound config) {value : α} {rest : List α}
    (elements : s.ring.toList = value :: rest)
    : s.drain = s.popFront.andThen fun after _ => after.drain.map (value :: ·) := by
  obtain ⟨pops, _, left⟩ := popFront_of_cons sound elements
  have notEmpty : s.ring.isEmpty = false := by
    rw [Bool.eq_false_iff]
    intro empty
    cases elements.symm.trans ((Ring.toList_eq_nil sound.valid).mpr empty)
  obtain ⟨head, removes, list⟩ := Ring.popFront?_eq sound.valid notEmpty
  obtain ⟨rfl, rfl⟩ := List.cons.inj (elements.symm.trans list)
  have drains := Ring.drain_of_popped sound.valid removes notEmpty
  obtain ⟨chosen, count⟩ := s.producers.notify_min 1 s.ring.popped.drain.1.length
  rw [pops]
  simp only [drain, drains, Section.andThen, Section.map, List.length_cons]
  rw [Nat.add_comm _ 1, ← chosen, ← count, ← List.replicate_append_replicate]
  rfl

/-- A drain is what pops until there is nothing left amount to, by induction on the
elements.
-/
theorem drain_popsOut (sound : s.Sound config)
    : s.PopsOut s.drain := by
  generalize elements : s.ring.toList = values
  induction values generalizing s with
  | nil =>
    rw [drain_of_nil sound elements]
    exact .nothing (congrArg Section.result (popFront_of_nil sound elements))
  | cons value rest ih =>
    obtain ⟨kept, left⟩ := sound_popFront sound elements
    rw [drain_of_cons sound elements]
    exact .more (congrArg Section.result (popFront_of_cons sound elements).1) (ih kept left)

end

/-- What a drain does is exactly what pops do that go on until there is nothing left, and
this is what it comes to: the values are all elements in their order, the pop index has
caught up with the push index, and of the producers that sleep as many are chosen and woken
as there were elements.
-/
structure DrainsLikePops (s : Guarded α) : Prop where
  pops : ∀ done, s.PopsOut done ↔ done = s.drain
  values : s.drain.result = s.ring.toList
  count : s.drain.result.length = s.ring.length
  indices
    : s.drain.state.ring.pushIndex = s.ring.pushIndex
      ∧ s.drain.state.ring.popIndex = s.ring.pushIndex
      ∧ s.drain.state.ring.capacity = s.ring.capacity
  emptied : s.drain.state.ring.toList = []
  closed : s.drain.state.closed = s.closed
  producers
    : s.drain.state.producers
      = { waiting := s.producers.waiting - min s.producers.waiting s.ring.length
          notified := s.producers.notified + min s.producers.waiting s.ring.length }
  consumers : s.drain.state.consumers = s.consumers
  wakes
    : s.drain.wakes
      = List.replicate (min s.producers.waiting s.ring.length) (.one .producer)
  silent : s.drain.events = []

theorem Sound.drainsLikePops {s : Guarded α} {config : Config} (sound : s.Sound config)
    : s.DrainsLikePops := by
  have long := Ring.length_toList sound.valid
  obtain ⟨last, _, same, left, drains⟩ := drain_eq sound
  have ring : s.ring.drain.2 = last := congrArg (fun done => done.state.ring) drains
  have moved := Ring.drain_indices sound.valid
  rw [ring] at moved
  refine ⟨fun done => ⟨fun pops => pops.unique (drain_popsOut sound), ?_⟩, ?_, ?_, ?_, ?_, ?_,
    ?_, ?_, ?_, ?_⟩
  · rintro rfl
    exact drain_popsOut sound
  all_goals rw [drains]
  · exact long
  · exact ⟨moved.1, moved.2, same.trans sound.capacity.symm⟩
  · exact left
  · simp only [long]
    rfl
  · rw [long]

end Guarded

-----------------------------------------------------------------------------------------
-- Nobody else works under the lock while a thread holds it
-----------------------------------------------------------------------------------------

/-- Whoever has settled an operation has the lock. -/
theorem Turn.inside_of_settles {turn : Turn α} {settled : Operation α × Answer α}
    (settles : turn.settles? = some settled)
    : ∃ call outcome reporting,
        turn.progress.queue.phase? turn.thread = some (.inside call outcome reporting) := by
  unfold settles? at settles
  split at settles
  · rename_i inside
    exact ⟨_, _, _, inside⟩
  · cases settles

namespace Queue

section
variable {q last : Queue α} {late : List (Turn α)} {thread : Nat}

theorem Run.unsettled (run : Run q late last) (orderly : q.Orderly)
    (held : q.holder = some thread) (others : ∀ turn ∈ late, turn.thread ≠ thread)
    : ∀ turn ∈ late, turn.settles? = none := by
  intro turn member
  obtain ⟨early, met, later, split, before, made, _⟩ := run.split member
  have reached : Run q (early ++ [turn]) turn.progress.queue := .step before made
  have away : ∀ other ∈ early ++ [turn], other.thread ≠ thread := by
    intro other earlier
    apply others
    rw [split, List.append_cons]
    exact List.mem_append_left _ earlier
  have still : turn.progress.queue.holder = some thread := by
    rw [(reached.aside orderly held away).1]
    exact held
  rw [Option.eq_none_iff_forall_ne_some]
  intro settled settles
  obtain ⟨call, outcome, reporting, inside⟩ := Turn.inside_of_settles settles
  cases (reached.elements orderly).1.alone still (others turn member) inside

/-- So nothing is stored or taken meanwhile. -/
theorem Run.unmoved (run : Run q late last) (orderly : q.Orderly)
    (held : q.holder = some thread) (others : ∀ turn ∈ late, turn.thread ≠ thread)
    : storedBy late = [] ∧ takenBy late = [] := by
  have unsettled := run.unsettled orderly held others
  refine ⟨List.flatMap_eq_nil_iff.mpr ?_, List.flatMap_eq_nil_iff.mpr ?_⟩
  · intro turn member
    rw [Turn.stored, unsettled turn member]
    rfl
  · intro turn member
    rw [Turn.taken, unsettled turn member]
    rfl

end

-----------------------------------------------------------------------------------------
-- A drain in the course of a run
-----------------------------------------------------------------------------------------

/-- The work of a thread that drains the queue, once a poisoned lock has been seen to. -/
def drained (q : Queue α) : Section α (Outcome α) :=
  q.prepared (q.recovered.drain.map fun values => .answered (.drained values))

theorem work_drain (q : Queue α) (now : Nat) {call : Call α} (asks : call.operation = .drain)
    : q.work now call none = q.drained := by
  rw [work_eq, asks]
  rfl

/-- No event of a drain is one that the sink can fail in. -/
theorem canFail_drained (q : Queue α)
    : canFail q.drained.events = false := by
  have silent : q.drained.events = (if q.alarmed then [.lockPoisoned] else []) ++ [] := rfl
  rw [silent]
  cases q.alarmed <;> rfl

/-- The thread that drained the queue `q` in `entry`, after the run `history` from `start`
to `q`, still has the lock after the steps `others` of other threads, which lead to `held`.
These have moved nothing but themselves, all the thread can do is to return what it has
found in `q`, and all that the others did could as well be done when it has returned.
-/
structure DrainStands (start : Queue α) (history : List (Turn α)) (q : Queue α)
    (entry : Turn α) (others : List (Turn α)) (held : Queue α)
    : Prop where
  untouched : held = { entry.progress.queue with phases := held.phases }
  unmoved : storedBy others = [] ∧ takenBy others = [] ∧ emitted others = []
  returns
    : ∀ now,
        ∃ ended,
          held.step? now entry.thread .leave = some ended
          ∧ ended.answer = some (.drained q.state.ring.toList)
          ∧ ended.events = []
          ∧ ended.queue.state = q.recovered.drain.state
  only : ∀ {now move ended}, held.step? now entry.thread move = some ended → move = .leave
  serial
    : ∀ {resume : Turn α},
        resume.thread = entry.thread
        → held.step? resume.now resume.thread resume.move = some resume.progress
        → ∃ callers earlier delayed freed,
          (∀ caller ∈ callers, q.Hesitates caller)
          ∧ Spares (fun _ => false) history earlier
          ∧ Spares Answer.isBusy others delayed
          ∧ ∀ {rest last},
            Run resume.progress.queue rest last
            → Run start
                (earlier
                  ++ entry.leaving (entry.progress.queue.withdraw callers)
                  :: resume.leaving freed
                  :: (delayed ++ rest))
                last

/-- What a thread that has asked for a drain finds at the queue `q`, after the run `history`
from `start` to `q`. It waits for a lock that is held, and with a free one it does in one
step what it would do by popping; it gets all that has come in so far and not gone out, and
whatever others do before it returns adds nothing to that.
-/
structure DrainsAtOnce (start : Queue α) (values : List α) (history : List (Turn α))
    (q : Queue α) (thread : Nat) (call : Call α)
    : Prop where
  waits
    : q.holder ≠ none → ∀ now preferred, q.step? now thread (.enter preferred) = none
  enters
    : q.holder = none
      → ∀ now preferred,
        q.step? now thread (.enter preferred)
        = some (q.enterWith thread call preferred q.drained)
  state : q.drained.state = q.recovered.drain.state
  wakes : q.drained.wakes = q.alarm ++ q.recovered.drain.wakes
  elements
    : values ++ (storedBy history).map Prod.snd
      = (takenBy history).map Prod.snd ++ q.recovered.drain.result
  stands
    : ∀ {now preferred others held},
        q.holder = none
        → Run (q.enterWith thread call preferred q.drained).queue others held
        → (∀ turn ∈ others, turn.thread ≠ thread)
        → DrainStands start history q
            ⟨now, thread, .enter preferred, q.enterWith thread call preferred q.drained⟩
            others held

section
variable {slotBytes threads : Nat} {clock : Clock} {config : Config} {values : List α}
  {fresh q : Queue α}
  {history : List (Turn α)}

theorem sound_recovered {q : Queue α} (sound : q.state.Sound q.config)
    : q.recovered.Sound q.config :=
  ⟨sound.valid, sound.capacity⟩

/-- Until the drain returns, by what others can do while a thread holds the lock. -/
theorem Run.drainStands
    (created : (ofConfigAndItems slotBytes config (.ofList values)).result = .ok fresh)
    (run : Run (fresh.withThreads clock threads) history q) {thread : Nat} {call : Call α}
    (arrived : q.phase? thread = some (.arrived call)) (asks : call.operation = .drain)
    (free : q.holder = none) (now : Nat) {preferred : List Nat} {others : List (Turn α)}
    {held : Queue α}
    (meanwhile : Run (q.enterWith thread call preferred q.drained).queue others held)
    (away : ∀ turn ∈ others, turn.thread ≠ thread)
    : DrainStands (fresh.withThreads clock threads) history q
        ⟨now, thread, .enter preferred, q.enterWith thread call preferred q.drained⟩
        others held := by
  have orderly := run.orderly created
  have enters
      : q.Transition now thread (.enter preferred)
          (q.enterWith thread call preferred q.drained) := by
    rw [← q.work_drain now asks]
    exact .enters none arrived free fun _ => by rw [asks]; rfl
  have begun := orderly.transition enters
  obtain ⟨same, stays, silent⟩ := meanwhile.aside begun rfl away
  obtain ⟨unstored, untaken⟩ := meanwhile.unmoved begun rfl away
  have result : q.recovered.drain.result = q.state.ring.toList :=
    (sound_recovered orderly.sound).drainsLikePops.values
  have inside
      : held.phase? thread
        = some (.inside call (.answered (.drained q.state.ring.toList)) false) := by
    rw [stays, phase?_enterWith_self arrived, entered, canFail_drained, ← result]
    rfl
  refine ⟨same, ⟨unstored, untaken, silent⟩, ?returns, ?only, ?serial⟩
  case returns =>
    intro now
    have ends : held.Transition now thread .leave _ := .ends inside
    refine ⟨_, ends.step?, rfl, rfl, ?_⟩
    rw [same]
    rfl
  case only =>
    intro now move ended step
    cases Transition.of_step? step with
    | ends | sleeps => rfl
    | enters sleptOn here | stumbles sleptOn here =>
      cases sleptOn <;> cases inside.symm.trans here
    | fails here reports | failsGuarded here reports | failsAgain here reports =>
      obtain rfl := Option.some.inj (inside.symm.trans here)
      cases reports
    | begins here | inspects here | refuses here | cleansUp here | stirs here =>
      cases inside.symm.trans here
  case serial =>
    intro resume own resumes
    exact run.serial created enters.step? (phase?_enterWith_self arrived) rfl meanwhile away
      own resumes

/-- In every reachable state, a drain is what pops amount to that go on until there is nothing
left, and it is one step of its thread as seen by all others; witness: element by element each
pop chooses the producer that the drain has counted, and under the lock the thread is alone.
-/
theorem drain_eq_pops
    (created : (ofConfigAndItems slotBytes config (.ofList values)).result = .ok fresh)
    (run : Run (fresh.withThreads clock threads) history q)
    : q.state.DrainsLikePops
      ∧ q.recovered.DrainsLikePops
      ∧ ∀ {thread call},
        q.phase? thread = some (.arrived call)
        → call.operation = .drain
        → DrainsAtOnce (fresh.withThreads clock threads) values history q thread call := by
  have sound := (run.orderly created).sound
  have pops := (sound_recovered sound).drainsLikePops
  refine ⟨sound.drainsLikePops, pops, ?_⟩
  intro thread call arrived asks
  have locks : call.operation.isInspection = false := by rw [asks]; rfl
  refine ⟨?waits, ?enters, rfl, rfl, ?elements, ?stands⟩
  case waits =>
    intro isHeld now preferred
    obtain ⟨holder, held⟩ := Option.ne_none_iff_exists'.mp isHeld
    simp only [step?, enter, arrived, enterArrived_of_held held locks, asks, Operation.busy?,
      Option.map_none]
  case enters =>
    intro free now preferred
    rw [← q.work_drain now asks]
    exact (Transition.enters none arrived free fun _ => locks).step?
  case elements =>
    rw [pops.values]
    exact run.order created
  case stands =>
    intro now preferred others held free meanwhile away
    exact run.drainStands created arrived asks free now meanwhile away

end

/-- Of a queue of two, one element is taken and another one stored behind the end of the
slots; then three producers go to sleep, and somebody asks for a drain.
-/
def beforeDrain : List (Nat × Nat × Move Nat) :=
  [(0, 0, .call .tryPop false), (0, 0, .enter []), (0, 0, .leave),
    (1, 0, .call (.tryPush 6) false), (1, 0, .enter []), (1, 0, .leave),
    (2, 1, .call (.waitPush 7 .infinite) false), (2, 1, .enter []), (2, 1, .leave),
    (3, 2, .call (.waitPush 8 .infinite) false), (3, 2, .enter []), (3, 2, .leave),
    (4, 3, .call (.waitPush 9 .infinite) false), (4, 3, .enter []), (4, 3, .leave),
    (5, 4, .call .drain false)]

/-- Two of the three are woken, and what they bring is none of what the drain returns. -/
theorem drain_eq_pops_rotated
    : let ring := (Ring.empty 2).pushed 1 |>.pushed 2
      let start := (ofRing (.ofCapacity 2) ring).withThreads .ofWords 5
      let before := start.play beforeDrain
      let after :=
        before.2.play
          [(6, 4, .enter []), (7, 4, .leave), (8, 1, .enter []), (8, 1, .leave),
            (9, 2, .enter []), (9, 2, .leave)]
      before.2.state.ring.toList = [2, 6]
      ∧ (before.2.state.ring.popIndex, before.2.state.ring.pushIndex) = (1, 0)
      ∧ before.2.state.producers = { waiting := 3 }
      ∧ repliesTo after.1 4 = [.drained [2, 6]]
      ∧ after.2.state.producers = { waiting := 1 }
      ∧ after.2.state.ring.toList = [7, 8]
      ∧ before.2.state.DrainsLikePops
      ∧ DrainsAtOnce start [1, 2] before.1 before.2 4
          { operation := .drain, deadline := none, alreadyFailing := false } := by
  have created
      : (ofConfigAndItems 8 (.ofCapacity 2) (.ofList [1, 2])).result
        = .ok (ofRing (.ofCapacity 2) ((Ring.empty 2).pushed 1 |>.pushed 2)) := rfl
  obtain ⟨pops, _, atOnce⟩ := drain_eq_pops created (Run.of_play _ beforeDrain)
  exact ⟨rfl, rfl, rfl, rfl, rfl, rfl, pops, atOnce rfl rfl⟩

end Queue

end Conduit
