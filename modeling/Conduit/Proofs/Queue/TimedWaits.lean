import Conduit.Proofs.Queue.Entries
import Conduit.Proofs.Queue.Events

/-! A call that may wait up to a time, from its beginning to its answer.
Each time it has the lock it looks at the list first and at the clock only if there is nothing
for it, so that its time can be up only at an open full or an open empty queue, and a sleep
that ends too early or for nothing costs it no more than another look.
-/

namespace Conduit

variable {α : Type}

-----------------------------------------------------------------------------------------
-- The list first, the clock second
-----------------------------------------------------------------------------------------

/-- What the library of a clock says of it in its documentation, `final` being the last tick:
the tick that comes so many ticks after another one is that many ticks later, and it is none if
the clock ends before.
-/
structure Clock.Documented (clock : Clock) (final : Nat) : Prop where
  within
    : ∀ {tick ticks}, tick + ticks ≤ final → clock.after? tick ticks = some (tick + ticks)
  past : ∀ {tick ticks}, final < tick + ticks → clock.after? tick ticks = none

/-- The clock that does nothing but what the documentation says. -/
def Clock.upTo (final : Nat) : Clock :=
  { after? := fun tick ticks =>
      if tick + ticks ≤ final then some (tick + ticks) else none }

theorem Clock.documented_upTo (final : Nat) : (Clock.upTo final).Documented final :=
  ⟨fun fits => if_pos fits, fun beyond => if_neg (Nat.not_le.mpr beyond)⟩

/-- A wait for some ticks expires that many ticks after the call, and not at all if the clock
ends before.
-/
theorem Clock.Documented.deadline_after {clock : Clock} {final : Nat}
    (documented : clock.Documented final) (began ticks : Nat)
    : (Timeout.after ticks).deadline clock began
      = if began + ticks ≤ final then some (began + ticks) else none := by
  rw [Timeout.deadline]
  split
  · rename_i fits
    exact documented.within fits
  · rename_i beyond
    exact documented.past (Nat.not_le.mp beyond)

/-- Whether an answer tells its caller that the time was up. -/
def Answer.isTimedOut : Answer α → Bool
  | .push (.error (.timedOut _)) | .pop (.error .timedOut) => true
  | _ => false

/-- Whether a thread wants the lock for its work. -/
def Phase.isAtDoor : Phase α → Bool
  | .arrived _ | .woken _ _ => true
  | _ => false

/-- What an operation answers when its time is up. A push hands its value back. -/
def Operation.timedOut? : Operation α → Option (Answer α)
  | .waitPush value _ => some (.push (.error (.timedOut value)))
  | .waitPop _ => some (.pop (.error .timedOut))
  | _ => none

namespace Fifo

/-- With something to do, or an end to report, the time makes no difference. -/
theorem serve_of_finds {f : Fifo α} {operation : Operation α} {side : Side}
    (waits : operation.side? = some side)
    (finds : f.closed = true ∨ 0 < f.available side)
    : ∃ answer after,
        answer.isTimedOut = false
        ∧ ∀ late, f.serve late operation = .answers answer after := by
  cases operation with
  | waitPush value timeout =>
    cases waits
    by_cases closed : f.closed = true
    · refine ⟨.push (.error (.closed value)), f, rfl, fun late => ?_⟩
      simp only [serve, push, if_pos closed]
    · have room : f.elements.length < f.config.capacity :=
        Nat.lt_of_sub_pos (finds.resolve_left closed)
      refine ⟨.push (.ok ()), { f with elements := f.elements ++ [value] }, rfl,
        fun late => ?_⟩
      simp only [serve, push, if_neg closed, if_pos room]
  | waitPop timeout =>
    cases waits
    cases elements : f.elements with
    | cons value rest =>
      refine ⟨.pop (.ok value), { f with elements := rest }, rfl, fun late => ?_⟩
      simp only [serve, pop, elements]
    | nil =>
      have closed : f.closed = true :=
        finds.resolve_right (by simp [available, elements])
      refine ⟨.pop (.error .closed), f, rfl, fun late => ?_⟩
      simp only [serve, pop, elements, if_pos closed]
  | _ => cases waits

/-- Without anything to do at an open queue, the time alone decides. -/
theorem serve_of_nothing {f : Fifo α} {operation : Operation α} {side : Side}
    (waits : operation.side? = some side) (isOpen : f.closed = false)
    (nothing : f.available side = 0)
    : ∃ answer,
        operation.timedOut? = some answer
        ∧ ∀ late,
          f.serve late operation = if late then .answers answer f else .waits side := by
  cases operation with
  | waitPush value timeout =>
    cases waits
    have full : ¬f.elements.length < f.config.capacity := fun room =>
      Nat.lt_irrefl 0 (nothing ▸ Nat.sub_pos_of_lt room)
    refine ⟨_, rfl, fun late => ?_⟩
    simp only [serve, push, isOpen, if_neg full, Bool.false_eq_true, if_false]
  | waitPop timeout =>
    cases waits
    have empty : f.elements = [] := List.eq_nil_of_length_eq_zero nothing
    refine ⟨_, rfl, fun late => ?_⟩
    simp only [serve, pop, empty, isOpen, Bool.false_eq_true, if_false]
  | _ => cases waits

end Fifo

-----------------------------------------------------------------------------------------
-- One attempt
-----------------------------------------------------------------------------------------

/-- Whether the time of a call is up, read off its deadline. -/
theorem expired_eq_true {deadline : Option Nat} {now : Nat}
    : expired deadline now = true ↔ ∃ tick, deadline = some tick ∧ tick ≤ now := by
  cases deadline <;> simp [expired]

namespace Queue

/-- How one attempt of a call goes that met the queue `met` at tick `now` and led to
`after`. Something to do or an end to report is an answer, whatever the time. Otherwise the
time is up and the list is left as it is, or there is some left and the caller goes to sleep
for that long.
-/
inductive Attempt (thread : Nat) (call : Call α) (side : Side) (met : Queue α) (now : Nat)
    (after : Queue α) : Prop
  | serves {answer reporting} (finds : met.fifo.closed = true ∨ 0 < met.fifo.available side)
    (inside : after.phase? thread = some (.inside call (.answered answer) reporting))
    (response
      : ∀ late, met.fifo.serve late call.operation = .answers answer after.fifo)
    (inTime : answer.isTimedOut = false)
  | expires {answer reporting} {tick : Nat} (isOpen : met.fifo.closed = false)
    (nothing : met.fifo.available side = 0)
    (inside : after.phase? thread = some (.inside call (.answered answer) reporting))
    (deadline : call.deadline = some tick) (past : tick ≤ now)
    (answers : call.operation.timedOut? = some answer) (kept : after.fifo = met.fifo)
  | sleeps {time : Option Nat} (isOpen : met.fifo.closed = false)
    (nothing : met.fifo.available side = 0)
    (inside : after.phase? thread = some (.inside call (.waits side time) false))
    (early : ∀ tick, call.deadline = some tick → now < tick)
    (limit : time = call.deadline.map fun tick => tick - now) (kept : after.fifo = met.fifo)

/-- A caller that goes to sleep does so for the time that is left to it. -/
theorem time_of_waits {q : Queue α} (sound : q.state.Sound q.config) {now : Nat}
    {call : Call α} {sleptOn : Option Side} {side : Side} {time : Option Nat}
    (waits : (q.work now call sleptOn).result = .waits side time)
    : time = remaining call.deadline now := by
  rw [work_eq] at waits
  exact ((ready_attempted sound now call sleptOn).kept waits).2.2

/-- Every attempt goes in one of the three ways, by what it finds and by the time. -/
theorem Orderly.attempt {q : Queue α} (orderly : q.Orderly) {now thread : Nat}
    {preferred : List Nat} {call : Call α} {sleptOn : Option Side}
    (door : q.phase? thread = some (call.atDoor sleptOn)) {side : Side}
    (waits : call.operation.side? = some side)
    : q.Attempt thread call side now
        (q.enterWith thread call preferred (q.work now call sleptOn)).queue := by
  obtain ⟨worked, answered⟩ :=
    worked_of_work orderly.sound now call sleptOn (orderly.came door)
  have inside
      : (q.enterWith thread call preferred (q.work now call sleptOn)).queue.phase? thread
        = some (entered call (q.work now call sleptOn)) :=
    phase?_enterWith_self door
  have list := fifo_enterWith worked thread call preferred
  have response := answered.response
  rw [entered] at inside
  rw [Section.response] at response
  by_cases finds : q.fifo.closed = true ∨ 0 < q.fifo.available side
  · obtain ⟨answer, after, inTime, table⟩ := Fifo.serve_of_finds waits finds
    rw [table] at response
    cases result : (q.work now call sleptOn).result with
    | waits other time =>
      rw [result] at response
      cases response
    | answered given =>
      rw [result, ← list] at response
      rw [result] at inside
      obtain ⟨rfl, rfl⟩ := Fifo.Response.answers.inj response
      exact .serves finds inside table inTime
  · obtain ⟨isOpen, nothing⟩ := not_or.mp finds
    have isOpen := Bool.eq_false_iff.mpr isOpen
    have nothing := Nat.eq_zero_of_not_pos nothing
    obtain ⟨answer, gives, table⟩ := Fifo.serve_of_nothing waits isOpen nothing
    rw [table] at response
    cases result : (q.work now call sleptOn).result with
    | answered given =>
      rw [result, ← list] at response
      rw [result] at inside
      split at response
      · rename_i late
        obtain ⟨rfl, kept⟩ := Fifo.Response.answers.inj response
        obtain ⟨tick, deadline, past⟩ := expired_eq_true.mp late
        exact .expires isOpen nothing inside deadline past gives kept.symm
      · cases response
    | waits other time =>
      rw [result] at response inside
      split at response
      · cases response
      · rename_i early
        obtain rfl := Fifo.Response.waits.inj response
        have quiet : canFail (q.work now call sleptOn).events = false := by
          rw [Bool.eq_false_iff]
          intro loud
          obtain ⟨answer, answers, _⟩ := worked.quiet loud
          cases result.symm.trans answers
        rw [quiet] at inside
        refine .sleeps isOpen nothing inside (fun tick deadline => ?_)
          (time_of_waits orderly.sound result) (list.trans (fifo_of_waits worked answered result))
        exact Nat.not_le.mp fun past => early (expired_eq_true.mpr ⟨tick, deadline, past⟩)

/-- A thread that takes the lock for its work makes an attempt. -/
theorem Orderly.attempt_of_door {q : Queue α} (orderly : q.Orderly) {now thread : Nat}
    {move : Move α} {progress : Progress α} {call : Call α} (sleptOn : Option Side)
    (door : q.phase? thread = some (call.atDoor sleptOn)) {side : Side}
    (waits : call.operation.side? = some side)
    (transition : q.Transition now thread move progress) (entry : move.isEntry = true)
    : q.Attempt thread call side now progress.queue := by
  have same
      : ∀ {phase}, q.phase? thread = some phase → call.atDoor sleptOn = phase :=
    fun found => Option.some.inj (door.symm.trans found)
  cases transition with
  | @enters preferred asked slept here =>
    have same := same here
    have both : asked = call ∧ slept = sleptOn := by
      cases sleptOn <;> cases slept <;> cases same <;> exact ⟨rfl, rfl⟩
    obtain ⟨rfl, rfl⟩ := both
    exact orderly.attempt door waits
  | inspects here asks =>
    have same := same here
    cases sleptOn <;> cases same
    simp [asks, Operation.side?] at waits
  | refuses here held busy =>
    have same := same here
    cases sleptOn <;> cases same
    rw [Operation.busy?_of_waits waits] at busy
    cases busy
  | cleansUp here =>
    have same := same here
    cases sleptOn <;> cases same
  | _ => cases entry

-----------------------------------------------------------------------------------------
-- The attempts of a call
-----------------------------------------------------------------------------------------

/-- The turn as an attempt of the thread, with the queue that it met, if it is one: the thread
takes the lock that it has wanted for its work.
-/
def attemptOf (thread : Nat) (met : Queue α) (turn : Turn α) : List (Queue α × Turn α) :=
  if turn.thread = thread ∧ turn.move.isEntry ∧ (met.phase? thread).any Phase.isAtDoor then
    [(met, turn)]
  else []

/-- The attempts that a thread makes in the course of a run from `met`, oldest first. -/
def attempts (thread : Nat) (met : Queue α) : List (Turn α) → List (Queue α × Turn α)
  | [] => []
  | turn :: later => attemptOf thread met turn ++ attempts thread turn.progress.queue later

/-- The attempts of a run and of what is done after it. -/
theorem Run.attempts_append {start last : Queue α} {early : List (Turn α)}
    (run : Run start early last) (thread : Nat) (late : List (Turn α))
    : attempts thread start (early ++ late)
      = attempts thread start early ++ attempts thread last late := by
  induction run generalizing late with
  | start => rfl
  | @step history met turn before made ih =>
    rw [List.append_assoc, List.singleton_append, ih, ih [turn]]
    simp [attempts]

theorem Run.attempts_step {start last : Queue α} {history : List (Turn α)}
    (run : Run start history last) (thread : Nat) (turn : Turn α)
    : attempts thread start (history ++ [turn])
      = attempts thread start history ++ attemptOf thread last turn := by
  rw [run.attempts_append, attempts, attempts, List.append_nil]

theorem mem_of_attempts {thread : Nat} {met : Queue α} {turns : List (Turn α)}
    {attempt : Queue α × Turn α} (made : attempt ∈ attempts thread met turns)
    : attempt.2 ∈ turns := by
  induction turns generalizing met with
  | nil => cases made
  | cons turn later ih =>
    rcases List.mem_append.mp made with here | after
    · unfold attemptOf at here
      split at here
      · rw [List.mem_singleton.mp here]
        exact List.mem_cons_self
      · cases here
    · exact List.mem_cons_of_mem _ (ih after)

/-- The attempt has sent its caller to sleep. -/
def SendsToSleep (thread : Nat) (call : Call α) (side : Side) (attempt : Queue α × Turn α)
    : Prop :=
  ∃ time,
    attempt.2.progress.queue.phase? thread = some (.inside call (.waits side time) false)

/-- The attempt has found its caller an answer. -/
def Finds (thread : Nat) (call : Call α) (answer : Answer α) (attempt : Queue α × Turn α)
    : Prop :=
  ∃ reporting,
    attempt.2.progress.queue.phase? thread = some (.inside call (.answered answer) reporting)

/-- There have been attempts, and all have sent their caller to sleep. -/
def Waited (thread : Nat) (call : Call α) (side : Side) (tried : List (Queue α × Turn α))
    : Prop :=
  tried ≠ [] ∧ ∀ attempt ∈ tried, SendsToSleep thread call side attempt

/-- The last of the attempts has found an answer, and all others have sent their caller to
sleep.
-/
def Found (thread : Nat) (call : Call α) (side : Side) (tried : List (Queue α × Turn α))
    (answer : Answer α) : Prop :=
  ∃ earlier last,
    tried = earlier ++ [last]
    ∧ (∀ attempt ∈ earlier, SendsToSleep thread call side attempt)
    ∧ Finds thread call answer last

/-- The sink fails under the call. The call has `stumbled`, so that it is not served after the
attempts that have sent it to sleep, or the last of them had found it an answer.
-/
def Lost (thread : Nat) (call : Call α) (side : Side) (stumbled : Prop)
    (tried : List (Queue α × Turn α)) : Prop :=
  stumbled ∧ (∀ attempt ∈ tried, SendsToSleep thread call side attempt)
  ∨ ¬stumbled ∧ ∃ answer, Found thread call side tried answer

/-- Where a thread can be in the course of a call, by the attempts that it has made and by
whether it has stumbled over a poisoned lock. Only a failure of the sink can take an answer
back that an attempt has found.
-/
inductive Pursues (thread : Nat) (call : Call α) (side : Side) (stumbled : Prop)
    : List (Queue α × Turn α) → Phase α → Prop
  | arrives (upright : ¬stumbled) : Pursues thread call side stumbled [] (.arrived call)
  | joins {tried time} (upright : ¬stumbled) (waited : Waited thread call side tried)
    : Pursues thread call side stumbled tried (.inside call (.waits side time) false)
  | sleeps {tried} (upright : ¬stumbled) (waited : Waited thread call side tried)
    : Pursues thread call side stumbled tried (.parked side call)
  | wakes {tried} (upright : ¬stumbled) (waited : Waited thread call side tried)
    : Pursues thread call side stumbled tried (.woken side call)
  | decided {tried answer reporting} (upright : ¬stumbled)
    (found : Found thread call side tried answer)
    : Pursues thread call side stumbled tried (.inside call (.answered answer) reporting)
  | stumbles {tried sleptOn} (lost : stumbled)
    (slept : ∀ attempt ∈ tried, SendsToSleep thread call side attempt)
    : Pursues thread call side stumbled tried (.stumbling sleptOn call)
  | fails {tried} (lost : Lost thread call side stumbled tried)
    : Pursues thread call side stumbled tried (.failing call)
  | cleansUp {tried} (lost : Lost thread call side stumbled tried)
    : Pursues thread call side stumbled tried
        (.inside { call with alreadyFailing := true } (.answered .sinkFailed) false)

section
variable {q : Queue α} {thread : Nat} {call : Call α} {side : Side} {stumbled : Prop}
  {tried : List (Queue α × Turn α)} {phase : Phase α} {now : Nat} {move : Move α}
  {progress : Progress α}

/-- The turn of a thread is an attempt if it takes the lock that it has wanted for its work. -/
theorem attemptOf_self (found : q.phase? thread = some phase)
    : attemptOf thread q ⟨now, thread, move, progress⟩
      = if move.isEntry ∧ phase.isAtDoor then [(q, ⟨now, thread, move, progress⟩)] else [] := by
  simp [attemptOf, found]

theorem attemptOf_other {turn : Turn α} (other : turn.thread ≠ thread)
    : attemptOf thread q turn = [] :=
  if_neg fun both => other both.1

/-- One more attempt sends its caller to sleep or finds an answer. -/
theorem Pursues.attempt (turn : Turn α) (upright : ¬stumbled)
    (slept : ∀ attempt ∈ tried, SendsToSleep thread call side attempt)
    (made : q.Attempt thread call side turn.now turn.progress.queue)
    : ∃ new,
        turn.progress.queue.phase? thread = some new
        ∧ Pursues thread call side stumbled (tried ++ [(q, turn)]) new := by
  cases made with
  | serves _ inside | expires _ _ inside =>
    exact ⟨_, inside, .decided upright ⟨tried, _, rfl, slept, _, inside⟩⟩
  | sleeps _ _ inside =>
    refine ⟨_, inside, .joins upright ⟨by simp, fun attempt member => ?_⟩⟩
    rcases List.mem_append.mp member with earlier | last
    · exact slept attempt earlier
    · rw [List.mem_singleton.mp last]
      exact ⟨_, inside⟩

/-- Where the sink can fail under the call, it has stumbled or found its answer. -/
theorem Pursues.lost (pursues : Pursues thread call side stumbled tried phase)
    {given : Call α} (reports : phase.atSink? = some given)
    : given = call ∧ Lost thread call side stumbled tried := by
  cases pursues with
  | @decided _ _ reporting upright found =>
    cases reporting with
    | false => cases reports
    | true => exact ⟨(Option.some.inj reports).symm, Or.inr ⟨upright, _, found⟩⟩
  | stumbles lost slept => exact ⟨(Option.some.inj reports).symm, Or.inl ⟨lost, slept⟩⟩
  | _ => cases reports

/-- The thread goes on with its call as long as it has no answer, by cases on where it is. -/
theorem Pursues.step_self (pursues : Pursues thread call side stumbled tried phase)
    (orderly : q.Orderly) (found : q.phase? thread = some phase)
    (waits : call.operation.side? = some side)
    (transition : q.Transition now thread move progress) (silent : progress.answer = none)
    (steady : move.isStumble = false)
    : ∃ new,
        progress.queue.phase? thread = some new
        ∧ Pursues thread call side stumbled
            (tried ++ attemptOf thread q ⟨now, thread, move, progress⟩) new := by
  rw [attemptOf_self found]
  cases transition with
  | begins here =>
    obtain rfl := Option.some.inj (found.symm.trans here)
    cases pursues
  | stumbles => cases steady
  | inspects | refuses | ends | fails | failsAgain => cases silent
  | @enters preferred asked sleptOn door free locks =>
    obtain rfl := Option.some.inj (found.symm.trans door)
    cases sleptOn with
    | none =>
      cases pursues with
      | arrives upright =>
        exact Pursues.attempt ⟨now, thread, _, _⟩ upright (fun _ none => by cases none)
          (orderly.attempt door waits)
    | some slept =>
      cases pursues with
      | wakes upright waited =>
        exact Pursues.attempt ⟨now, thread, _, _⟩ upright waited.2
          (orderly.attempt door waits)
  | cleansUp here free =>
    obtain rfl := Option.some.inj (found.symm.trans here)
    obtain ⟨_, _, result, quiet⟩ := worked_of_failureWork orderly.sound
    refine ⟨_, phase?_enterWith_self here, ?_⟩
    rw [entered, result, quiet]
    cases pursues with
    | fails lost => simpa [Phase.isAtDoor] using .cleansUp lost
  | sleeps here =>
    obtain rfl := Option.some.inj (found.symm.trans here)
    refine ⟨_, phase?_setPhase_self here _, ?_⟩
    cases pursues with
    | joins upright waited => simpa [Phase.isAtDoor] using .sleeps upright waited
  | failsGuarded here reports =>
    obtain rfl := Option.some.inj (found.symm.trans here)
    refine ⟨_, phase?_setPhase_self here _, ?_⟩
    obtain ⟨rfl, lost⟩ := pursues.lost reports
    simpa [Move.isEntry] using .fails lost
  | stirs here =>
    obtain rfl := Option.some.inj (found.symm.trans here)
    refine ⟨_, phase?_setPhase_self here _, ?_⟩
    cases pursues with
    | sleeps upright waited => simpa [Phase.isAtDoor] using .wakes upright waited

/-- A thread that stumbles has made no attempt, or has been sent to sleep by all. -/
theorem Pursues.stumble (pursues : Pursues thread call side stumbled tried phase)
    (found : q.phase? thread = some phase)
    (transition : q.Transition now thread move progress) (stumbles : move.isStumble = true)
    {lost : Prop} (happened : lost)
    : ∃ new,
        progress.queue.phase? thread = some new
        ∧ Pursues thread call side lost
            (tried ++ attemptOf thread q ⟨now, thread, move, progress⟩) new := by
  rw [attemptOf_self found]
  cases transition with
  | @stumbles asked sleptOn door =>
    obtain rfl := Option.some.inj (found.symm.trans door)
    refine ⟨_, phase?_setPhase_self door _, ?_⟩
    simp only [Move.isEntry, Bool.false_eq_true, false_and, if_false, List.append_nil]
    cases sleptOn with
    | none =>
      cases pursues with
      | arrives => exact .stumbles happened fun _ none => by cases none
    | some slept =>
      cases pursues with
      | wakes _ waited => exact .stumbles happened waited.2
  | _ => cases stumbles

/-- Whatever the others do, they can only wake the thread. -/
theorem Pursues.step_other {other : Nat}
    (pursues : Pursues thread call side stumbled tried phase)
    (found : q.phase? thread = some phase)
    (transition : q.Transition now other move progress) (different : thread ≠ other)
    : ∃ new,
        progress.queue.phase? thread = some new
        ∧ Pursues thread call side stumbled tried new := by
  rcases transition.others different with same | ⟨slept, asleep, parked, woken⟩
  · exact ⟨phase, same.trans found, pursues⟩
  · obtain rfl := Option.some.inj (found.symm.trans parked)
    cases pursues with
    | sleeps upright waited => exact ⟨_, woken, .wakes upright waited⟩

/-- The call ends with the answer that its last attempt has found, unless the sink has failed.
-/
theorem Pursues.ends (pursues : Pursues thread call side stumbled tried phase)
    (found : q.phase? thread = some phase) (waits : call.operation.side? = some side)
    (transition : q.Transition now thread move progress) {answer : Answer α}
    (answered : progress.answer = some answer)
    : answer = .sinkFailed ∧ Lost thread call side stumbled tried
      ∨ ¬stumbled ∧ Found thread call side tried answer := by
  cases transition with
  | begins | sleeps | stirs | enters | cleansUp | stumbles | failsGuarded => cases answered
  | inspects here asks =>
    obtain rfl := Option.some.inj (found.symm.trans here)
    cases pursues with
    | arrives => simp [asks, Operation.side?] at waits
  | refuses here held busy =>
    obtain rfl := Option.some.inj (found.symm.trans here)
    cases pursues with
    | arrives =>
      rw [Operation.busy?_of_waits waits] at busy
      cases busy
  | ends here =>
    obtain rfl := Option.some.inj (found.symm.trans here)
    obtain rfl := Option.some.inj answered
    cases pursues with
    | decided upright given => exact Or.inr ⟨upright, given⟩
    | cleansUp lost => exact Or.inl ⟨rfl, lost⟩
  | fails here reports | failsAgain here reports =>
    obtain rfl := Option.some.inj (found.symm.trans here)
    obtain rfl := Option.some.inj answered
    exact Or.inl ⟨rfl, (pursues.lost reports).2⟩

/-- Every attempt of the call goes in one of the three ways. -/
theorem Pursues.tries (pursues : Pursues thread call side stumbled tried phase)
    (orderly : q.Orderly) (found : q.phase? thread = some phase)
    (waits : call.operation.side? = some side)
    (transition : q.Transition now thread move progress) {attempt : Queue α × Turn α}
    (tries : attempt ∈ attemptOf thread q ⟨now, thread, move, progress⟩)
    : attempt.1.Attempt thread call side attempt.2.now attempt.2.progress.queue := by
  rw [attemptOf_self found] at tries
  split at tries
  · rename_i both
    obtain ⟨entry, door⟩ := both
    obtain rfl := List.mem_singleton.mp tries
    cases pursues with
    | arrives => exact orderly.attempt_of_door none found waits transition entry
    | wakes => exact orderly.attempt_of_door (some side) found waits transition entry
    | _ => cases door
  · cases tries

/-- All attempts but the last have sent their caller to sleep. -/
theorem Found.retries {answer : Answer α} (found : Found thread call side tried answer)
    {attempt : Queue α × Turn α} (earlier : attempt ∈ tried.dropLast)
    : SendsToSleep thread call side attempt := by
  obtain ⟨before, last, rfl, slept, _⟩ := found
  rw [List.dropLast_concat] at earlier
  exact slept attempt earlier

theorem Pursues.retries (pursues : Pursues thread call side stumbled tried phase)
    {attempt : Queue α × Turn α} (earlier : attempt ∈ tried.dropLast)
    : SendsToSleep thread call side attempt := by
  have member := List.dropLast_subset _ earlier
  cases pursues with
  | arrives => cases earlier
  | joins _ waited | sleeps _ waited | wakes _ waited => exact waited.2 attempt member
  | decided _ found => exact found.retries earlier
  | stumbles _ slept => exact slept attempt member
  | fails lost | cleansUp lost =>
    rcases lost with ⟨_, slept⟩ | ⟨_, answer, found⟩
    · exact slept attempt member
    · exact found.retries earlier

end

/-- A turn adds to what a thread has stumbled over only if it is a stumble of its own. -/
theorem stumbled_step {history : List (Turn α)} {turn : Turn α} {thread : Nat}
    (steady : turn.thread = thread → turn.move.isStumble = false)
    : Stumbled (history ++ [turn]) thread = Stumbled history thread := by
  refine propext ⟨fun stumbled => ?_, fun stumbled => stumbled.step turn⟩
  obtain ⟨earlier, member, own, stumbles⟩ := stumbled
  rcases List.mem_append.mp member with before | newest
  · exact ⟨earlier, before, own, stumbles⟩
  · obtain rfl := List.mem_singleton.mp newest
    cases (steady own).symm.trans stumbles

/-- As long as a call has no answer, its thread goes on with it, by induction on the run. -/
theorem Run.pursues {opened last : Queue α} {during : List (Turn α)}
    (run : Run opened during last) (orderly : opened.Orderly) {thread : Nat} {call : Call α}
    (arrived : opened.phase? thread = some (.arrived call)) {side : Side}
    (waits : call.operation.side? = some side)
    (unanswered : repliesTo during thread = [])
    : last.Orderly
      ∧ (∃ phase,
          last.phase? thread = some phase
          ∧ Pursues thread call side (Stumbled during thread)
              (attempts thread opened during) phase)
      ∧ ∀ attempt ∈ attempts thread opened during,
          attempt.1.Attempt thread call side attempt.2.now attempt.2.progress.queue := by
  induction run with
  | start =>
    have upright : ¬Stumbled ([] : List (Turn α)) thread := fun ⟨_, member, _⟩ => by cases member
    exact ⟨orderly, ⟨_, arrived, .arrives upright⟩, fun _ none => by cases none⟩
  | @step history met turn before made ih =>
    rw [repliesTo_append] at unanswered
    obtain ⟨earlier, silent⟩ := List.append_eq_nil_iff.mp unanswered
    obtain ⟨known, ⟨phase, found, pursues⟩, tries⟩ := ih earlier
    have transition := Transition.of_step? made
    refine ⟨known.transition transition, ?_⟩
    rw [before.attempts_step]
    obtain ⟨now, other, move, progress⟩ := turn
    by_cases own : other = thread
    · subst own
      have silent : progress.answer = none := by simpa [repliesTo] using silent
      refine ⟨?_, fun attempt member => ?_⟩
      · cases stumbles : move.isStumble with
        | true =>
          exact pursues.stumble found transition stumbles
            ⟨_, List.mem_append_right _ (List.mem_singleton_self _), rfl, stumbles⟩
        | false =>
          rw [stumbled_step fun _ => stumbles]
          exact pursues.step_self known found waits transition silent stumbles
      · rcases List.mem_append.mp member with earlier | newest
        · exact tries attempt earlier
        · exact pursues.tries known found waits transition newest
    · rw [attemptOf_other own, List.append_nil, stumbled_step fun same => absurd same own]
      exact ⟨pursues.step_other found transition (Ne.symm own), tries⟩

-----------------------------------------------------------------------------------------
-- The call as a whole
-----------------------------------------------------------------------------------------

/-- What holds of a call of `thread`, begun at tick `began` by `clock`, that has met the turns
`during` and not yet been answered. Its deadline is the tick of the call and its time after
that, or none if the clock ends before. Each attempt goes in one of three ways, so that the
call sleeps for the time that is left to it and never after its deadline: once that has
passed, one more attempt ends it. However it ends, it has made an attempt and left no entry
behind, unless the sink fails in its report of a poisoned lock. If it gives up, its last
attempt has met an open queue with nothing for it after the deadline and has left the list as
it was. Without a deadline it does not give up.
-/
structure TimedWait (clock : Clock) (thread began : Nat) (call : Call α) (side : Side)
    (opened : Queue α) (during : List (Turn α)) (last : Queue α) : Prop where
  due
    : ∀ {final ticks},
        clock.Documented final
        → call.operation.timeout = .after ticks
        → call.deadline = if began + ticks ≤ final then some (began + ticks) else none
  infinite : call.operation.timeout = .infinite → call.deadline = none
  attempts
    : ∀ attempt ∈ attempts thread opened during,
        attempt.1.Attempt thread call side attempt.2.now attempt.2.progress.queue
  retries
    : ∀ attempt ∈ (Queue.attempts thread opened during).dropLast,
        SendsToSleep thread call side attempt
  overdue
    : (during.Pairwise fun turn later => turn.now ≤ later.now)
      → ∀ {early turn late tick},
        during = early ++ turn :: late
        → call.deadline = some tick
        → tick ≤ turn.now
        → (Queue.attempts thread turn.progress.queue late).length ≤ 1
  entries
    : ∀ {phase},
        last.phase? thread = some phase
        → ∀ side,
          entryBalance thread side opened during
          = phase.entryCount side + desertions thread side during
  ends
    : ∀ {now move progress answer},
        last.step? now thread move = some progress
        → progress.answer = some answer
        → Stumbled during thread ∧ answer = .sinkFailed
          ∨ (∃ given,
              Found thread call side (Queue.attempts thread opened during) given
              ∧ (answer = given ∨ answer = .sinkFailed))
            ∧ ∀ side,
              entryBalance thread side opened (during ++ [⟨now, thread, move, progress⟩]) = 0
  givesUp
    : ∀ {now move progress answer},
        last.step? now thread move = some progress
        → progress.answer = some answer
        → answer.isTimedOut = true
        → call.operation.timedOut? = some answer
          ∧ ∃ earlier met turn tick,
            Queue.attempts thread opened during = earlier ++ [(met, turn)]
            ∧ call.deadline = some tick
            ∧ tick ≤ turn.now
            ∧ met.fifo.closed = false
            ∧ met.fifo.available side = 0
            ∧ turn.progress.queue.fifo = met.fifo
  patient
    : call.deadline = none
      → (∀ attempt ∈ Queue.attempts thread opened during, ∀ {time reporting},
            attempt.2.progress.queue.phase? thread
              = some (.inside call (.waits side time) reporting)
            → time = none)
        ∧ ∀ {now move progress answer},
            last.step? now thread move = some progress
            → progress.answer = some answer
            → answer.isTimedOut = false

section
variable {opened last : Queue α} {during : List (Turn α)} {thread began : Nat}
  {call : Call α} {side : Side}

/-- Whoever gives up has seen the deadline past and found nothing, in its last attempt. -/
theorem Found.givesUp {tried : List (Queue α × Turn α)} {answer : Answer α}
    (found : Found thread call side tried answer) (late : answer.isTimedOut = true)
    (tries
      : ∀ attempt ∈ tried,
          attempt.1.Attempt thread call side attempt.2.now attempt.2.progress.queue)
    : call.operation.timedOut? = some answer
      ∧ ∃ earlier met turn tick,
        tried = earlier ++ [(met, turn)]
        ∧ call.deadline = some tick
        ∧ tick ≤ turn.now
        ∧ met.fifo.closed = false
        ∧ met.fifo.available side = 0
        ∧ turn.progress.queue.fifo = met.fifo := by
  obtain ⟨earlier, ⟨met, turn⟩, rfl, _, reporting, inside⟩ := found
  cases tries (met, turn) (List.mem_append_right _ (List.mem_singleton_self _)) with
  | serves _ here _ inTime =>
    cases inside.symm.trans here
    cases late.symm.trans inTime
  | expires isOpen nothing here deadline past answers kept =>
    cases inside.symm.trans here
    exact ⟨answers, earlier, met, turn, _, rfl, deadline, past, isOpen, nothing, kept⟩
  | sleeps _ _ here => cases inside.symm.trans here

theorem SendsToSleep.early {attempt : Queue α × Turn α}
    (slept : SendsToSleep thread call side attempt)
    (tried : attempt.1.Attempt thread call side attempt.2.now attempt.2.progress.queue)
    {tick : Nat} (deadline : call.deadline = some tick)
    : attempt.2.now < tick := by
  obtain ⟨time, inside⟩ := slept
  cases tried with
  | serves _ here | expires _ _ here => cases inside.symm.trans here
  | sleeps _ _ _ early => exact early tick deadline

/-- With the clock in order, at most one attempt follows a turn after the deadline: if two
did, the first of them would have sent its caller to sleep.
-/
theorem Run.overdue (run : Run opened during last)
    (tries
      : ∀ attempt ∈ attempts thread opened during,
          attempt.1.Attempt thread call side attempt.2.now attempt.2.progress.queue)
    (retries
      : ∀ attempt ∈ (attempts thread opened during).dropLast,
          SendsToSleep thread call side attempt)
    (ordered : during.Pairwise fun turn later => turn.now ≤ later.now)
    {early : List (Turn α)} {turn : Turn α} {late : List (Turn α)} {tick : Nat}
    (split : during = early ++ turn :: late) (deadline : call.deadline = some tick)
    (past : tick ≤ turn.now)
    : (attempts thread turn.progress.queue late).length ≤ 1 := by
  obtain ⟨met, before, _, _⟩ := run.split_at split
  have whole
      : attempts thread opened during
        = (attempts thread opened early ++ attemptOf thread met turn)
          ++ attempts thread turn.progress.queue late := by
    rw [split, before.attempts_append, attempts, List.append_assoc]
  have after : ∀ later ∈ late, turn.now ≤ later.now := by
    rw [split] at ordered
    exact (List.pairwise_cons.mp (List.pairwise_append.mp ordered).2.1).1
  match made : attempts thread turn.progress.queue late with
  | [] => exact Nat.zero_le 1
  | [_] => exact Nat.le_refl 1
  | attempt :: next :: rest =>
    rw [made] at whole
    have again : attempt ∈ (attempts thread opened during).dropLast := by
      rw [whole, List.dropLast_append_of_ne_nil (List.cons_ne_nil _ _)]
      exact List.mem_append_right _ List.mem_cons_self
    have slept := retries attempt again
    have early := slept.early (tries attempt (List.dropLast_subset _ again)) deadline
    have member : attempt.2 ∈ late :=
      mem_of_attempts (made ▸ List.mem_cons_self)
    have := after attempt.2 member
    omega

/-- A call that has begun at an orderly queue keeps to its deadline. -/
theorem Run.timedWait {clock : Clock} (run : Run opened during last) (orderly : opened.Orderly)
    (tracked : ∀ side, opened.Tracked side)
    (arrived : opened.phase? thread = some (.arrived call))
    (deadline : call.deadline = call.operation.timeout.deadline clock began)
    (waits : call.operation.side? = some side)
    (unanswered : repliesTo during thread = [])
    : TimedWait clock thread began call side opened during last := by
  obtain ⟨known, ⟨phase, found, pursues⟩, tries⟩ :=
    run.pursues orderly arrived waits unanswered
  have retries
      : ∀ attempt ∈ (Queue.attempts thread opened during).dropLast,
          SendsToSleep thread call side attempt :=
    fun _ earlier => pursues.retries earlier
  have gaveUp
      : ∀ {now move progress answer},
          last.step? now thread move = some progress
          → progress.answer = some answer
          → answer.isTimedOut = true
          → Found thread call side (Queue.attempts thread opened during) answer := by
    intro now move progress answer made answered late
    rcases pursues.ends found waits (.of_step? made) answered with ⟨rfl, _⟩ | ⟨_, final⟩
    · cases late
    · exact final
  have balance
      : ∀ {late phase} {final : Queue α},
          Run opened late final
          → final.phase? thread = some phase
          → ∀ side,
            entryBalance thread side opened late
            = phase.entryCount side + desertions thread side late := by
    intro late phase final made here side
    rw [made.entryBalance_eq orderly (tracked side) arrived here]
    have outside : (Phase.arrived call).entryCount side = 0 := rfl
    omega
  refine ⟨fun documented lasts => ?due, fun lasts => ?infinite, tries, retries,
    run.overdue tries retries, balance run, ?ends, ?givesUp, ?patient⟩
  case due => rw [deadline, lasts, documented.deadline_after]
  case infinite => rw [deadline, lasts, Timeout.deadline]
  case ends =>
    intro now move progress answer made answered
    have transition := Transition.of_step? made
    have settled
        : ¬Stumbled during thread
          → ∀ side,
            entryBalance thread side opened (during ++ [⟨now, thread, move, progress⟩])
            = 0 := by
      intro upright side
      have steady : move.isStumble = false := by
        cases transition with
        | stumbles => cases answered
        | _ => rfl
      have kept
          : Stumbled (during ++ [⟨now, thread, move, progress⟩]) thread
            = Stumbled during thread := stumbled_step fun _ => steady
      rw [← kept] at upright
      rw [balance (.step run made) (transition.idle_of_answer answered),
        desertions_of_upright upright]
      rfl
    rcases pursues.ends found waits transition answered with
      ⟨lost, ⟨stumbled, _⟩ | ⟨upright, given, final⟩⟩ | ⟨upright, final⟩
    · exact Or.inl ⟨stumbled, lost⟩
    · exact Or.inr ⟨⟨given, final, Or.inr lost⟩, settled upright⟩
    · exact Or.inr ⟨⟨answer, final, Or.inl rfl⟩, settled upright⟩
  case givesUp =>
    intro now move progress answer made answered late
    exact (gaveUp made answered late).givesUp late tries
  case patient =>
    intro unlimited
    refine ⟨fun attempt member {time reporting} inside => ?_, ?_⟩
    · cases tries attempt member with
      | serves _ here | expires _ _ here => cases inside.symm.trans here
      | sleeps _ _ here _ limit =>
        cases inside.symm.trans here
        rw [limit, unlimited]
        rfl
    · intro now move progress answer made answered
      rw [Bool.eq_false_iff]
      intro late
      obtain ⟨_, _, _, _, tick, _, timed, _⟩ :=
        (gaveUp made answered late).givesUp late tries
      cases unlimited.symm.trans timed

end

/-- In every run a call that may wait keeps to its deadline, whatever other threads do and
however often it is woken; witness: the attempts of the call, one for each time that it has
the lock.
-/
theorem timed_waits_hold {clock : Clock} {slotBytes threads began thread : Nat} {config : Config}
    {values : List α} {fresh before last : Queue α} {early during : List (Turn α)}
    {operation : Operation α} {alreadyFailing : Bool} {side : Side} {opening : Progress α}
    (created : (ofConfigAndItems slotBytes config (.ofList values)).result = .ok fresh)
    (run : Run (fresh.withThreads clock threads) early before)
    (called : before.step? began thread (.call operation alreadyFailing) = some opening)
    (waits : operation.side? = some side) (goesOn : Run opening.queue during last)
    (unanswered : repliesTo during thread = [])
    : TimedWait clock thread began
        { operation, deadline := operation.timeout.deadline clock began, alreadyFailing } side
        opening.queue during last := by
  have orderly := run.orderly created
  have tracked := fun side => run.tracked created side
  have clocked : before.clock = clock := run.clock_eq
  obtain ⟨idle, rfl⟩
      : before.phase? thread = some .idle
        ∧ opening
          = { queue :=
                before.setPhase thread
                  (.arrived
                    { operation, deadline := operation.timeout.deadline clock began
                      alreadyFailing }) } := by
    rw [← clocked]
    cases Transition.of_step? called with
    | begins idle => exact ⟨idle, rfl⟩
  have begins := Transition.of_step? called
  exact goesOn.timedWait (orderly.transition begins)
    (fun side => (tracked side).shift orderly (orderly.shift begins))
    (phase?_setPhase_self idle _) rfl waits unanswered

/-- A consumer that has called at tick 40 and may wait for five ticks. -/
def waitsFive : Call Nat :=
  { operation := .waitPop (.after 5), deadline := some 45, alreadyFailing := false }

/-- It is woken by a push whose element another consumer takes, sleeps on, and stirs when
its time has long been up.
-/
def stolenThenLate : List (Nat × Nat × Move Nat) :=
  [(40, 0, .enter []), (40, 0, .leave), (41, 1, .call (.tryPush 7) false), (41, 1, .enter []),
    (41, 1, .leave), (42, 2, .call .tryPop false), (42, 2, .enter []), (42, 2, .leave),
    (43, 0, .enter []), (43, 0, .leave), (49, 0, .stir), (49, 0, .enter [])]

/-- It then gives up in its third attempt, after its deadline, and is no longer counted. -/
theorem timed_waits_hold_stolen
    : let clock := Clock.upTo Clock.lastTick
      let opened :=
        ((ofRing (.ofCapacity 1) (.empty 1)).withThreads clock 3).setPhase 0 (.arrived waitsFive)
      let played := opened.play stolenThenLate
      (attempts 0 opened played.1).map (fun attempt => attempt.2.now) = [40, 43, 49]
      ∧ played.2.phase? 0 = some (.inside waitsFive (.answered (.pop (.error .timedOut))) true)
      ∧ played.2.state.consumers = { waiting := 0, notified := 0 }
      ∧ clock.Documented Clock.lastTick
      ∧ TimedWait clock 0 40 waitsFive .consumer opened played.1 played.2 := by
  have created
      : (ofConfigAndItems 8 (.ofCapacity 1) (.ofList ([] : List Nat))).result
        = .ok (ofRing (.ofCapacity 1) (.empty 1)) := rfl
  have called
      : ((ofRing (.ofCapacity 1) (.empty 1)).withThreads (.upTo Clock.lastTick) 3).step? 40 0
            (.call (.waitPop (.after 5)) false)
        = some
            { queue :=
                ((ofRing (.ofCapacity 1) (.empty 1)).withThreads (.upTo Clock.lastTick)
                  3).setPhase 0 (.arrived waitsFive) } := rfl
  exact ⟨rfl, rfl, rfl, Clock.documented_upTo _,
    timed_waits_hold created .start called rfl (.of_play _ stolenThenLate) rfl⟩

end Queue

end Conduit
