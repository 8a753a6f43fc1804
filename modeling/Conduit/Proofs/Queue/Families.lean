import Conduit.Endpoint
import Conduit.Proofs.Queue.Suspension

/-! The operations that ask a queue for the same thing, compared at a free lock.
One waits for nothing, one for the lock, one for space or data as well. They find the same
state behind the lock, so they can differ only where there is nothing to do now.
-/

namespace Conduit

variable {α : Type}

/-- The operations that ask for the same thing, by what they wait for, and what those of them
say that find nothing to do.
-/
structure Family (α : Type) where
  side : Side
  /-- Waits neither for the lock nor for space or data. -/
  nonblocking : Operation α
  /-- Waits for the lock alone. -/
  trying : Operation α
  /-- Waits for the lock, and up to a time for space or data. -/
  waiting : Timeout → Operation α
  /-- The answer that there is nothing to do now. -/
  unavailable : Answer α
  /-- The answer that the time is up. -/
  late : Answer α
  /-- The event that reports that the time is up. -/
  report : Option String → Event

namespace Family

def push (value : α) : Family α :=
  { side := .producer
    nonblocking := .nonblockingPush value
    trying := .tryPush value
    waiting := .waitPush value
    unavailable := .push (.error (.full value))
    late := .push (.error (.timedOut value))
    report := .pushExpired }

def pop : Family α :=
  { side := .consumer
    nonblocking := .nonblockingPop
    trying := .tryPop
    waiting := .waitPop
    unavailable := .pop (.error .empty)
    late := .pop (.error .timedOut)
    report := .popExpired }

end Family

-----------------------------------------------------------------------------------------
-- One attempt of each operation of a family
-----------------------------------------------------------------------------------------

namespace Guarded

/-- How the attempts of a family go at a state. Either there is something to do, or an end to
report, and waiting makes no difference; or there is nothing to do, and nothing is done but
what a caller that waits does about its time.
-/
inductive Alike (s : Guarded α) (config : Config) (family : Family α) : Prop
  | serves (done : Section α (Outcome α)) (answer : Answer α)
    (result : done.result = .answered answer) (available : answer ≠ family.unavailable)
    (tries : ∀ deadline now, s.attempt config deadline now family.trying = done)
    (waits
      : ∀ deadline now timeout,
          s.attempt config deadline now (family.waiting timeout) = done)
  | idles
    (tries
      : ∀ deadline now,
          s.attempt config deadline now family.trying
            = s.keep (.answered family.unavailable))
    (waits
      : ∀ deadline now timeout,
          s.attempt config deadline now (family.waiting timeout)
            = if expired deadline now then
                { state := s
                  events := [family.report config.label]
                  result := .answered family.late }
              else (s.park family.side).keep (.waits family.side (remaining deadline now)))

/-- A full ring hands the very value back, and the state stays as it is. -/
theorem pushBack_cases (s : Guarded α) (value : α)
    : (s.pushBack value).result = .ok () ∨ s.pushBack value = s.keep (.error value) := by
  cases stored : s.ring.pushBack value with
  | ok ring =>
    refine Or.inl ?_
    simp only [pushBack, stored]
    split <;> rfl
  | error refused =>
    unfold Ring.pushBack at stored
    split at stored <;> cases stored
    rename_i full
    exact Or.inr (by simp only [pushBack, Ring.pushBack, if_pos full])

theorem popFront_cases (s : Guarded α)
    : (∃ value, s.popFront.result = some value) ∨ s.popFront = s.keep none := by
  cases given : s.ring.popFront? with
  | some pair =>
    refine Or.inl ⟨pair.1, ?_⟩
    simp only [popFront, given]
    split <;> rfl
  | none => exact Or.inr (by simp only [popFront, given])

/-- The pushes, by whether the queue is closed and whether there is room. -/
theorem alike_push (s : Guarded α) (config : Config) (value : α)
    : s.Alike config (.push value) := by
  by_cases closed : s.closed = true
  · refine .serves (s.keep (.answered (.push (.error (.closed value))))) _ rfl
      (fun same => by cases same) ?_ ?_
    · intro deadline now
      simp only [Family.push, attempt, offer, if_pos closed]
      rfl
    · intro deadline now timeout
      simp only [Family.push, attempt, pushUntil, if_pos closed]
  · rcases s.pushBack_cases value with stored | full
    · refine .serves ((s.pushBack value).map fun _ => .answered (.push (.ok ()))) _ rfl
        (fun same => by cases same) ?_ ?_
      · intro deadline now
        simp only [Family.push, attempt, offer, if_neg closed, Section.map, stored]
        rfl
      · intro deadline now timeout
        simp only [Family.push, attempt, pushUntil, if_neg closed, stored]
    · refine .idles ?_ ?_
      · intro deadline now
        simp only [Family.push, attempt, offer, if_neg closed, full]
        rfl
      · intro deadline now timeout
        simp only [Family.push, attempt, pushUntil, if_neg closed, full, keep]

/-- The pops, by whether there is an element and whether the queue is closed. -/
theorem alike_pop (s : Guarded α) (config : Config)
    : s.Alike config .pop := by
  rcases s.popFront_cases with ⟨value, taken⟩ | empty
  · refine .serves (s.popFront.map fun _ => .answered (.pop (.ok value))) _ rfl
      (fun same => by cases same) ?_ ?_
    · intro deadline now
      simp only [Family.pop, attempt, take, Section.map, taken]
    · intro deadline now timeout
      simp only [Family.pop, attempt, popUntil, taken]
  · by_cases closed : s.closed = true
    · refine .serves (s.keep (.answered (.pop (.error .closed)))) _ rfl
        (fun same => by cases same) ?_ ?_
      · intro deadline now
        simp only [Family.pop, attempt, take, empty, keep, Section.map, if_pos closed]
      · intro deadline now timeout
        simp only [Family.pop, attempt, popUntil, empty, keep, if_pos closed]
    · refine .idles ?_ ?_
      · intro deadline now
        simp only [Family.pop, attempt, take, empty, keep, Section.map, if_neg closed]
      · intro deadline now timeout
        simp only [Family.pop, attempt, popUntil, empty, keep, if_neg closed]

/-- A push that does not wait stores its value or hands it back. -/
theorem offer_cases (s : Guarded α) (value : α)
    : (s.offer value).result = .ok ()
      ∨ (s.offer value).result = .error (.closed value)
      ∨ (s.offer value).result = .error (.full value) := by
  unfold offer
  split
  · exact Or.inr (Or.inl rfl)
  · rcases s.pushBack_cases value with stored | full
    · exact Or.inl (by simp only [Section.map, stored]; rfl)
    · exact Or.inr (Or.inr (by simp only [full]; rfl))

/-- A pop that does not wait takes an element or says why there is none. -/
theorem take_cases (s : Guarded α)
    : (∃ value, s.take.result = .ok value)
      ∨ s.take.result = .error .closed
      ∨ s.take.result = .error .empty := by
  rcases s.popFront_cases with ⟨value, taken⟩ | empty
  · exact Or.inl ⟨value, by simp only [take, Section.map, taken]⟩
  · cases closed : s.closed with
    | true => exact Or.inr (Or.inl (by simp [take, Section.map, empty, keep, closed]))
    | false => exact Or.inr (Or.inr (by simp [take, Section.map, empty, keep, closed]))

end Guarded

/-- What makes operations a family. All of them take the lock, those that do not wait for
space or data make the same attempt, and the one that does makes it as well.
-/
structure Family.Kin (family : Family α) : Prop where
  locksNonblocking : family.nonblocking.isInspection = false
  locksTrying : family.trying.isInspection = false
  locksWaiting : ∀ timeout, (family.waiting timeout).isInspection = false
  waitsFor : ∀ timeout, (family.waiting timeout).timeout = timeout
  same
    : ∀ (s : Guarded α) config deadline other now,
        s.attempt config deadline now family.nonblocking
        = s.attempt config other now family.trying
  alike : ∀ (s : Guarded α) config, s.Alike config family

theorem Family.kin_push (value : α) : (Family.push value).Kin :=
  ⟨rfl, rfl, fun _ => rfl, fun _ => rfl, fun _ _ _ _ _ => rfl,
    fun s config => s.alike_push config value⟩

theorem Family.kin_pop : (Family.pop : Family α).Kin :=
  ⟨rfl, rfl, fun _ => rfl, fun _ => rfl, fun _ _ _ _ _ => rfl,
    fun s config => s.alike_pop config⟩

-----------------------------------------------------------------------------------------
-- One call of each operation of a family
-----------------------------------------------------------------------------------------

/-- How a thread comes to make a call: when it calls, when it gets the lock, whom its wakeups
reach first, and whether it is failing already.
-/
structure Visitor where
  thread : Nat
  began : Nat
  now : Nat
  preferred : List Nat := []
  alreadyFailing : Bool := false

namespace Queue

/-- The call that a thread makes, by the clock of the queue. -/
def callBy (q : Queue α) (visitor : Visitor) (operation : Operation α) : Call α :=
  { operation
    deadline := operation.timeout.deadline q.clock visitor.began
    alreadyFailing := visitor.alreadyFailing }

/-- What a call does first under the lock. -/
def firstWork (q : Queue α) (visitor : Visitor) (operation : Operation α)
    : Section α (Outcome α) :=
  q.work visitor.now (q.callBy visitor operation) none

/-- A thread calls, takes the lock and gives it back, with nobody in between. There is an
answer if that was the whole call.
-/
def visit (q : Queue α) (visitor : Visitor) (operation : Operation α)
    : Option (Progress α) := do
  let called ← q.step? visitor.began visitor.thread (.call operation visitor.alreadyFailing)
  let entered ← called.queue.step? visitor.now visitor.thread (.enter visitor.preferred)
  let left ← entered.queue.step? visitor.now visitor.thread .leave
  some
    { queue := left.queue
      events := called.events ++ entered.events ++ left.events
      answer := left.answer }

/-- The queue that a thread leaves behind after a stretch of work. -/
def leftBy (q : Queue α) (visitor : Visitor) (done : Section α (Outcome α))
    (phase : Phase α) : Queue α :=
  { q with
    state := done.state
    phases :=
      (done.wakes.foldl (deliver visitor.preferred) q.phases).set visitor.thread phase }

/-- Once a thread has the lock, it does not matter that it has called before. -/
theorem enterWith_called {q : Queue α} {thread : Nat} (idle : q.phase? thread = some .idle)
    (call : Call α) (preferred : List Nat) (done : Section α (Outcome α))
    : (q.setPhase thread (.arrived call)).enterWith thread call preferred done
      = q.enterWith thread call preferred done := by
  have uncalled : (q.setPhase thread (.arrived call)).withdraw [thread] = q := by
    rw [withdraw_arrived idle (List.mem_singleton_self thread)]
    simp
  have found := phase?_setPhase_self idle (.arrived call)
  generalize q.setPhase thread (.arrived call) = called at uncalled found
  have same
      : (called.withdraw [thread]).enterWith thread call preferred done
        = { called.enterWith thread call preferred done with
            queue :=
              (called.enterWith thread call preferred done).queue.withdraw [thread] } :=
    (discreet_withdrawn [thread]).enterWith called thread preferred done
      (by simp [Phase.withdrawn])
  have settled
      : (called.enterWith thread call preferred done).queue.withdraw [thread]
        = (called.enterWith thread call preferred done).queue := by
    refine recast_eq_self fun {other phase} here => ?_
    split
    · rename_i own
      obtain rfl := List.mem_singleton.mp own
      obtain rfl := Option.some.inj (here.symm.trans (phase?_enterWith_self found))
      rfl
    · rfl
  calc called.enterWith thread call preferred done
    _ = { called.enterWith thread call preferred done with
          queue :=
            (called.enterWith thread call preferred done).queue.withdraw [thread] } := by
        rw [settled]
    _ = (called.withdraw [thread]).enterWith thread call preferred done := same.symm
    _ = q.enterWith thread call preferred done := by rw [uncalled]

section
variable {q : Queue α} {visitor : Visitor} {operation : Operation α}

/-- A visit is a stretch of work under the free lock, and then giving the lock back. -/
theorem visit_eq (free : q.holder = none) (idle : q.phase? visitor.thread = some .idle)
    (locks : operation.isInspection = false)
    : q.visit visitor operation
      = ((q.enterWith visitor.thread (q.callBy visitor operation) visitor.preferred
            (q.firstWork visitor operation)).queue.step? visitor.now visitor.thread .leave).map
          fun left =>
            { left with events := (q.firstWork visitor operation).events ++ left.events } := by
  have calls
      : q.step? visitor.began visitor.thread (.call operation visitor.alreadyFailing)
        = some
            { queue := q.setPhase visitor.thread (.arrived (q.callBy visitor operation)) } :=
    (Transition.begins idle).step?
  have enters : (q.setPhase visitor.thread (.arrived (q.callBy visitor operation))).Transition
      visitor.now visitor.thread (.enter visitor.preferred) _ :=
    .enters none (phase?_setPhase_self idle _) free fun _ => locks
  have enters := enters.step?
  rw [enterWith_called idle] at enters
  simp only [visit, calls, Option.bind_eq_bind, Option.bind_some]
  rw [enters, Option.bind_some, Option.map_eq_bind]
  rfl

/-- A call that is answered in its first stretch of work is over when the lock is given back.
-/
theorem visit_of_answered (free : q.holder = none)
    (idle : q.phase? visitor.thread = some .idle) (locks : operation.isInspection = false)
    {answer : Answer α} (result : (q.firstWork visitor operation).result = .answered answer)
    : q.visit visitor operation
      = some
          { queue := q.leftBy visitor (q.firstWork visitor operation) .idle
            events := (q.firstWork visitor operation).events
            answer := some answer } := by
  have inside
      : (q.enterWith visitor.thread (q.callBy visitor operation) visitor.preferred
            (q.firstWork visitor operation)).queue.phase? visitor.thread
        = some (entered (q.callBy visitor operation) (q.firstWork visitor operation)) :=
    phase?_enterWith_self idle
  rw [entered, result] at inside
  rw [visit_eq free idle locks, (Transition.ends inside).step?]
  simp [enterWith, setPhase, leftBy, free]

/-- A call that has to wait sleeps when it gives the lock back. -/
theorem visit_of_waits (free : q.holder = none)
    (idle : q.phase? visitor.thread = some .idle) (locks : operation.isInspection = false)
    {side : Side} {time : Option Nat}
    (result : (q.firstWork visitor operation).result = .waits side time)
    : q.visit visitor operation
      = some
          { queue :=
              q.leftBy visitor (q.firstWork visitor operation)
                (.parked side (q.callBy visitor operation))
            events := (q.firstWork visitor operation).events } := by
  have inside
      : (q.enterWith visitor.thread (q.callBy visitor operation) visitor.preferred
            (q.firstWork visitor operation)).queue.phase? visitor.thread
        = some (entered (q.callBy visitor operation) (q.firstWork visitor operation)) :=
    phase?_enterWith_self idle
  rw [entered, result] at inside
  rw [visit_eq free idle locks, (Transition.sleeps inside).step?]
  simp [enterWith, setPhase, leftBy, free]

end

-----------------------------------------------------------------------------------------
-- The operations of a family agree
-----------------------------------------------------------------------------------------

/-- How the calls of a family compare that one thread could make at one free lock. An
attempt that does not wait for the lock is the same as one that does. If it finds something
to do, or an end to report, then a call that is willing to wait does the very same and ends
with it, whatever its time. If not, such a call adds one event and answers that its time is
up, or it adds its entry to the sleepers of its side and goes to sleep.
-/
structure Agree (q : Queue α) (visitor : Visitor) (family : Family α) : Prop where
  tries
    : ∃ answer left,
        (q.firstWork visitor family.trying).result = .answered answer
        ∧ q.visit visitor family.trying = some left
        ∧ left.answer = some answer
  nonblocking
    : q.firstWork visitor family.nonblocking = q.firstWork visitor family.trying
      ∧ q.visit visitor family.nonblocking = q.visit visitor family.trying
  serves
    : ∀ timeout,
        (q.firstWork visitor family.trying).result ≠ .answered family.unavailable
        → q.firstWork visitor (family.waiting timeout) = q.firstWork visitor family.trying
          ∧ q.visit visitor (family.waiting timeout) = q.visit visitor family.trying
  expires
    : ∀ timeout,
        (q.firstWork visitor family.trying).result = .answered family.unavailable
        → expired (timeout.deadline q.clock visitor.began) visitor.now = true
        → q.firstWork visitor (family.waiting timeout)
            = { q.firstWork visitor family.trying with
                events :=
                  (q.firstWork visitor family.trying).events
                    ++ [family.report q.config.label]
                result := .answered family.late }
          ∧ q.visit visitor (family.waiting timeout)
            = (q.visit visitor family.trying).map fun tried =>
                { tried with
                  events := tried.events ++ [family.report q.config.label]
                  answer := some family.late }
  sleeps
    : ∀ timeout,
        (q.firstWork visitor family.trying).result = .answered family.unavailable
        → expired (timeout.deadline q.clock visitor.began) visitor.now = false
        → q.firstWork visitor (family.waiting timeout)
            = { q.firstWork visitor family.trying with
                state := (q.firstWork visitor family.trying).state.park family.side
                result :=
                  .waits family.side
                    (remaining (timeout.deadline q.clock visitor.began) visitor.now) }
          ∧ q.visit visitor (family.waiting timeout)
            = (q.visit visitor family.trying).map fun tried =>
                { queue :=
                    { tried.queue with
                      state := tried.queue.state.park family.side }.setPhase visitor.thread
                        (.parked family.side (q.callBy visitor (family.waiting timeout)))
                  events := tried.events }

section
variable {q : Queue α} {visitor : Visitor} {family : Family α}

/-- Work of the first stretch is an attempt on the state behind the lock. -/
theorem firstWork_eq (q : Queue α) (visitor : Visitor) (operation : Operation α)
    : q.firstWork visitor operation
      = q.prepared
          (q.recovered.attempt q.config (operation.timeout.deadline q.clock visitor.began)
            visitor.now operation) :=
  q.work_eq visitor.now (q.callBy visitor operation) none

/-- Two calls that do the same and are answered leave the same behind. -/
theorem visit_congr (free : q.holder = none) (idle : q.phase? visitor.thread = some .idle)
    {operation other : Operation α} (locks : operation.isInspection = false)
    (locksOther : other.isInspection = false) {answer : Answer α}
    (result : (q.firstWork visitor operation).result = .answered answer)
    (same : q.firstWork visitor other = q.firstWork visitor operation)
    : q.visit visitor other = q.visit visitor operation := by
  rw [visit_of_answered free idle locks result, visit_of_answered free idle locksOther
    (same ▸ result), same]

/-- An attempt that does not wait for anything is answered. -/
theorem firstWork_answered (kin : family.Kin) (q : Queue α) (visitor : Visitor)
    : ∃ answer, (q.firstWork visitor family.trying).result = .answered answer := by
  rw [firstWork_eq]
  cases kin.alike q.recovered q.config with
  | serves done answer result available tries waits =>
    rw [tries]
    exact ⟨answer, result⟩
  | idles tries waits =>
    rw [tries]
    exact ⟨_, rfl⟩

/-- Whoever finds something to do does the same, willing to wait or not. -/
theorem firstWork_of_available (kin : family.Kin) (timeout : Timeout)
    (found : (q.firstWork visitor family.trying).result ≠ .answered family.unavailable)
    : q.firstWork visitor (family.waiting timeout) = q.firstWork visitor family.trying := by
  rw [firstWork_eq] at found
  rw [firstWork_eq, firstWork_eq]
  cases kin.alike q.recovered q.config with
  | serves done answer result available tries waits => rw [tries, waits]
  | idles tries waits =>
    rw [tries] at found
    exact absurd rfl found

/-- Whoever finds nothing to do changes nothing, but for what a call that is willing to wait
does about its time.
-/
theorem firstWork_of_unavailable (kin : family.Kin) (timeout : Timeout)
    (nothing : (q.firstWork visitor family.trying).result = .answered family.unavailable)
    : q.firstWork visitor family.trying
        = q.prepared (q.recovered.keep (.answered family.unavailable))
      ∧ q.firstWork visitor (family.waiting timeout)
        = q.prepared
            (if expired (timeout.deadline q.clock visitor.began) visitor.now then
              { state := q.recovered
                events := [family.report q.config.label]
                result := .answered family.late }
            else
              (q.recovered.park family.side).keep
                (.waits family.side
                  (remaining (timeout.deadline q.clock visitor.began) visitor.now))) := by
  rw [firstWork_eq] at nothing
  rw [firstWork_eq, firstWork_eq, kin.waitsFor]
  cases kin.alike q.recovered q.config with
  | serves done answer result available tries waits =>
    rw [tries] at nothing
    exact absurd (Outcome.answered.inj (result.symm.trans nothing)) available
  | idles tries waits => exact ⟨by rw [tries], by rw [waits]⟩

/-- The operations of a family agree, by whether there is something to do. -/
theorem agree_of_kin (free : q.holder = none) (idle : q.phase? visitor.thread = some .idle)
    (kin : family.Kin)
    : q.Agree visitor family := by
  have nonblocking
      : q.firstWork visitor family.nonblocking = q.firstWork visitor family.trying := by
    rw [firstWork_eq, firstWork_eq,
      kin.same _ _ _ (family.trying.timeout.deadline q.clock visitor.began)]
  obtain ⟨answer, ends⟩ := firstWork_answered kin q visitor
  refine ⟨⟨answer, _, ends, visit_of_answered free idle kin.locksTrying ends, rfl⟩,
    ⟨nonblocking, visit_congr free idle kin.locksTrying kin.locksNonblocking ends nonblocking⟩,
    ?serves, ?expires, ?sleeps⟩
  case serves =>
    intro timeout found
    have same := firstWork_of_available kin timeout found
    exact ⟨same, visit_congr free idle kin.locksTrying (kin.locksWaiting timeout) ends same⟩
  case expires =>
    intro timeout nothing late
    obtain ⟨tried, waits⟩ := firstWork_of_unavailable kin timeout nothing
    rw [if_pos late] at waits
    have gaveUp
        : (q.firstWork visitor (family.waiting timeout)).result = .answered family.late := by
      rw [waits]
      rfl
    rw [visit_of_answered free idle (kin.locksWaiting timeout) gaveUp,
      visit_of_answered free idle kin.locksTrying nothing, tried, waits]
    simp [prepared, Guarded.keep, leftBy]
  case sleeps =>
    intro timeout nothing early
    obtain ⟨tried, waits⟩ := firstWork_of_unavailable kin timeout nothing
    rw [if_neg (Bool.eq_false_iff.mp early)] at waits
    have slept
        : (q.firstWork visitor (family.waiting timeout)).result
          = .waits family.side
              (remaining (timeout.deadline q.clock visitor.began) visitor.now) := by
      rw [waits]
      rfl
    rw [visit_of_waits free idle (kin.locksWaiting timeout) slept,
      visit_of_answered free idle kin.locksTrying nothing, tried, waits]
    simp [prepared, Guarded.keep, leftBy, setPhase]

end

/-- All the ways to push a value and all the ways to pop one agree at a free lock. The two
that report nothing but closure do as the others, and report it of a closed queue alone.
-/
structure FamiliesAgree (q : Queue α) (visitor : Visitor) : Prop where
  pushes : ∀ value, q.Agree visitor (.push value)
  pops : q.Agree visitor .pop
  reportsPush
    : ∀ value answer,
        (q.firstWork visitor (.tryPush value)).result = .answered answer
        → answer ≠ .push (.error (.full value))
        → q.firstWork visitor (Back.queue.push value).operation
            = q.firstWork visitor (.tryPush value)
          ∧ q.visit visitor (Back.queue.push value).operation
            = q.visit visitor (.tryPush value)
          ∧ (answer = .push (.ok ())
                ∧ (Back.queue.push value).read answer = .offered (.ok ())
              ∨ answer = .push (.error (.closed value))
                ∧ (Back.queue.push value).read answer = .offered (.error ⟨value⟩))
  reportsPop
    : ∀ answer,
        (q.firstWork visitor .tryPop).result = .answered answer
        → answer ≠ .pop (.error .empty)
        → q.firstWork visitor Front.queue.valuePop.operation = q.firstWork visitor .tryPop
          ∧ q.visit visitor Front.queue.valuePop.operation = q.visit visitor .tryPop
          ∧ ((∃ value,
                  answer = .pop (.ok value)
                  ∧ Front.queue.valuePop.read answer = .received (.ok value))
              ∨ answer = .pop (.error .closed)
                ∧ Front.queue.valuePop.read answer = .received (.error ⟨()⟩))

/-- Every queue answers alike, however it has come to be as it is, as long as nobody holds its
lock.
-/
theorem families_agree {q : Queue α} (free : q.holder = none) {visitor : Visitor}
    (idle : q.phase? visitor.thread = some .idle)
    : q.FamiliesAgree visitor := by
  have pushes := fun value => agree_of_kin free idle (Family.kin_push value)
  have pops := agree_of_kin free idle Family.kin_pop
  refine ⟨pushes, pops, ?reportsPush, ?reportsPop⟩
  case reportsPush =>
    intro value answer result found
    obtain ⟨same, visits⟩ := (pushes value).serves .infinite fun full =>
      found (Outcome.answered.inj (result.symm.trans full))
    refine ⟨same, visits, ?_⟩
    have offered : answer = .push (q.recovered.offer value).result := by
      rw [firstWork_eq] at result
      exact (Outcome.answered.inj result).symm
    subst offered
    rcases q.recovered.offer_cases value with stored | closed | full
    · exact Or.inl (by simp [stored, Back.queue, Answer.asOffered])
    · exact Or.inr (by simp [closed, Back.queue, Answer.asOffered, PushError.value])
    · exact absurd (congrArg Answer.push full) found
  case reportsPop =>
    intro answer result found
    obtain ⟨same, visits⟩ := pops.serves .infinite fun empty =>
      found (Outcome.answered.inj (result.symm.trans empty))
    refine ⟨same, visits, ?_⟩
    have taken : answer = .pop q.recovered.take.result := by
      rw [firstWork_eq] at result
      exact (Outcome.answered.inj result).symm
    subst taken
    rcases q.recovered.take_cases with ⟨value, given⟩ | closed | empty
    · exact Or.inl ⟨value, by simp [given, Front.queue, Answer.asReceived]⟩
    · exact Or.inr (by simp [closed, Front.queue, Answer.asReceived])
    · exact absurd (congrArg Answer.pop empty) found

/-- A push sleeps at a full queue, another one gives up, and the sink fails under it. -/
def blockedAndFailed : List (Nat × Nat × Move Nat) :=
  [(0, 0, .call (.waitPush 8 .infinite) false), (0, 0, .enter []), (0, 0, .leave),
    (0, 1, .call (.waitPush 9 (.after 0)) false), (0, 1, .enter []), (0, 1, .fail)]

/-- Whoever comes to a poisoned queue next closes it and wakes the sleeper, in whatever way it
asks: a push is refused, and a pop takes the element that is left.
-/
theorem families_agree_poisoned
    : let q := (((ofRing (.ofCapacity 1) ((Ring.empty 1).pushed 7)).withThreads .ofWords 3).play
        blockedAndFailed).2
      let visitor : Visitor := { thread := 2, began := 1, now := 3 }
      q.poisoned = true
      ∧ q.state.producers = { waiting := 1, notified := 0 }
      ∧ (q.firstWork visitor (.waitPush 5 (.after 1))).result
        = .answered (.push (.error (.closed 5)))
      ∧ (q.firstWork visitor (.waitPush 5 (.after 1))).events = [.lockPoisoned]
      ∧ (q.firstWork visitor .nonblockingPop).wakes
        = [.all .consumer, .all .producer, .one .producer]
      ∧ q.FamiliesAgree visitor :=
  ⟨rfl, rfl, rfl, rfl, rfl, families_agree rfl rfl⟩

end Queue

end Conduit
