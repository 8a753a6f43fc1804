import Conduit.Queue.Basic

/-! All that one step of one thread can do to a queue, one constructor for each kind of step.
Everything proved about steps starts from this list, so that the step function itself is
taken apart only here.
-/

namespace Conduit

variable {α : Type}

/-- Whether a move is a failure of the log sink. -/
def Move.isFailure : Move α → Bool
  | .fail => true
  | _ => false

/-- Whether a move takes the lock with a failure of the log sink ahead. -/
def Move.isStumble : Move α → Bool
  | .stumble => true
  | _ => false

/-- Whether a move takes the lock for the work of an operation. -/
def Move.isEntry : Move α → Bool
  | .enter _ => true
  | _ => false

/-- Whether a thread is on its way to the lock: it has called, it has stopped sleeping, or
it has yet to close the queue.
-/
def Phase.seeksLock : Phase α → Bool
  | .arrived _ | .woken .. | .failing _ => true
  | _ => false

/-- Whether the thread holds the lock. -/
def Phase.isInside : Phase α → Bool
  | .inside .. | .stumbling .. => true
  | _ => false

/-- The phase of a thread that wants the lock for its work: it has just called, or it has
stopped sleeping on a side.
-/
def Call.atDoor (call : Call α) : Option Side → Phase α
  | none => .arrived call
  | some side => .woken side call

/-- The call of a thread that is with the log sink, where the sink can fail. -/
def Phase.atSink? : Phase α → Option (Call α)
  | .inside call _ true | .stumbling _ call => some call
  | _ => none

/-- At the sink, a thread reports its own work or that it has found a poisoned lock. -/
theorem Phase.cases_of_atSink? {phase : Phase α} {call : Call α}
    (reports : phase.atSink? = some call)
    : (∃ outcome, phase = .inside call outcome true)
      ∨ ∃ sleptOn, phase = .stumbling sleptOn call := by
  cases phase with
  | inside other outcome reporting =>
    cases reporting with
    | false => cases reports
    | true =>
      obtain rfl := Option.some.inj reports
      exact Or.inl ⟨outcome, rfl⟩
  | stumbling sleptOn other =>
    obtain rfl := Option.some.inj reports
    exact Or.inr ⟨sleptOn, rfl⟩
  | _ => cases reports

namespace Queue

/-- A step of `thread` at tick `now` that makes the given move and leads to the given
progress.
-/
inductive Transition (q : Queue α) (now thread : Nat) : Move α → Progress α → Prop
  | begins {operation alreadyFailing} (idle : q.phase? thread = some .idle)
    : Transition q now thread (.call operation alreadyFailing)
        { queue :=
            q.setPhase thread
              (.arrived
                { operation
                  deadline := operation.timeout.deadline q.clock now
                  alreadyFailing }) }
  | inspects {preferred call property} (arrived : q.phase? thread = some (.arrived call))
    (asks : call.operation = .inspect property)
    : Transition q now thread (.enter preferred)
        { queue := q.setPhase thread .idle
          answer := some (q.config.inspect property) }
  | refuses {preferred call holder answer}
    (arrived : q.phase? thread = some (.arrived call))
    (held : q.holder = some holder) (busy : call.operation.busy? = some answer)
    : Transition q now thread (.enter preferred)
        { queue := q.setPhase thread .idle
          answer := some answer }
  | enters {preferred call} (sleptOn : Option Side)
    (door : q.phase? thread = some (call.atDoor sleptOn)) (free : q.holder = none)
    (locks : sleptOn = none → call.operation.isInspection = false)
    : Transition q now thread (.enter preferred)
        (q.enterWith thread call preferred (q.work now call sleptOn))
  | cleansUp {preferred call} (failing : q.phase? thread = some (.failing call))
    (free : q.holder = none)
    : Transition q now thread (.enter preferred)
        (q.enterWith thread { call with alreadyFailing := true } preferred q.failureWork)
  | stumbles {call} (sleptOn : Option Side)
    (door : q.phase? thread = some (call.atDoor sleptOn)) (free : q.holder = none)
    (locks : sleptOn = none → call.operation.isInspection = false)
    (alarmed : q.alarmed = true)
    : Transition q now thread .stumble (q.stumbleWith thread sleptOn call)
  | ends {call answer reporting}
    (inside : q.phase? thread = some (.inside call (.answered answer) reporting))
    : Transition q now thread .leave
        { queue := { q with holder := none }.setPhase thread .idle
          answer := some answer }
  | sleeps {call side time reporting}
    (inside : q.phase? thread = some (.inside call (.waits side time) reporting))
    : Transition q now thread .leave
        { queue := { q with holder := none }.setPhase thread (.parked side call) }
  | fails {call phase} (here : q.phase? thread = some phase)
    (reports : phase.atSink? = some call) (healthy : call.alreadyFailing = false)
    (careless : call.operation.closesOnFailure = false)
    : Transition q now thread .fail
        { queue := { q with holder := none, poisoned := true }.setPhase thread .idle
          answer := some .sinkFailed }
  | failsGuarded {call phase} (here : q.phase? thread = some phase)
    (reports : phase.atSink? = some call) (healthy : call.alreadyFailing = false)
    (careful : call.operation.closesOnFailure = true)
    : Transition q now thread .fail
        { queue :=
            { q with holder := none, poisoned := true }.setPhase thread (.failing call) }
  | failsAgain {call phase} (here : q.phase? thread = some phase)
    (reports : phase.atSink? = some call) (unwinding : call.alreadyFailing = true)
    : Transition q now thread .fail
        { queue := { q with holder := none }.setPhase thread .idle
          answer := some .sinkFailed }
  | stirs {side call} (parked : q.phase? thread = some (.parked side call))
    : Transition q now thread .stir { queue := q.setPhase thread (.woken side call) }

/-- A thread that has called gets its answer without the lock, is refused a held lock, or
takes a free one.
-/
theorem enterArrived_transition {q : Queue α} {now thread : Nat} {preferred : List Nat}
    {call : Call α} {progress : Progress α}
    (arrived : q.phase? thread = some (.arrived call))
    (entered : q.enterArrived now thread preferred call = some progress)
    : q.Transition now thread (.enter preferred) progress := by
  unfold enterArrived at entered
  split at entered
  · rename_i property asks
    obtain rfl := Option.some.inj entered
    exact .inspects arrived asks
  · rename_i locks
    split at entered
    · rename_i free
      obtain rfl := Option.some.inj entered
      refine .enters none arrived free fun _ => ?_
      cases operation : call.operation <;> first | rfl | exact absurd operation (locks _)
    · rename_i holder held
      obtain ⟨answer, busy, rfl⟩ := Option.map_eq_some_iff.mp entered
      exact .refuses arrived held busy

/-- A thread that stumbles wants the lock of an open queue for its work, and a failing thread
has left the lock behind.
-/
theorem stumble_transition {q : Queue α} (now : Nat) {thread : Nat} {progress : Progress α}
    (stumbles : q.stumble thread = some progress)
    : q.Transition now thread .stumble progress := by
  unfold stumble at stumbles
  split at stumbles
  · rename_i ready
    obtain ⟨alarmed, free⟩ := Bool.and_eq_true_iff.mp ready
    have free := Option.isNone_iff_eq_none.mp free
    split at stumbles
    · rename_i call arrived
      split at stumbles
      · cases stumbles
      · rename_i locks
        obtain rfl := Option.some.inj stumbles
        exact .stumbles none arrived free (fun _ => Bool.eq_false_iff.mpr locks) alarmed
    · rename_i side call woken
      obtain rfl := Option.some.inj stumbles
      exact .stumbles (some side) woken free (fun none => by cases none) alarmed
    · cases stumbles
  · cases stumbles

/-- When the sink fails under a thread, it depends on the call what becomes of the thread and
of the lock.
-/
theorem finish_transition {q : Queue α} (now : Nat) {thread : Nat} {phase : Phase α}
    {call : Call α} (here : q.phase? thread = some phase) (reports : phase.atSink? = some call)
    : q.Transition now thread .fail (q.finish thread call .sinkFailed true) := by
  unfold finish failureBegan
  cases unwinding : call.alreadyFailing with
  | true => simpa using .failsAgain here reports unwinding
  | false =>
    cases careful : call.operation.closesOnFailure with
    | true => simpa [careful] using .failsGuarded here reports unwinding careful
    | false => simpa [careful] using .fails here reports unwinding careful

/-- Every step is a transition, by cases on the move and on where the thread is. -/
theorem Transition.of_step? {q : Queue α} {now thread : Nat} {move : Move α}
    {progress : Progress α} (step : q.step? now thread move = some progress)
    : q.Transition now thread move progress := by
  cases move with
  | call operation alreadyFailing =>
    simp only [step?, begin] at step
    split at step
    · rename_i idle
      obtain rfl := Option.some.inj step
      exact .begins idle
    · cases step
  | enter preferred =>
    simp only [step?, enter] at step
    split at step
    · rename_i call arrived
      exact enterArrived_transition arrived step
    · rename_i side call woken
      split at step
      · cases step
      · rename_i free
        obtain rfl := Option.some.inj step
        exact .enters (some side) woken (by simpa using free) fun none => by cases none
    · rename_i call failing
      split at step
      · cases step
      · rename_i free
        obtain rfl := Option.some.inj step
        exact .cleansUp failing (by simpa using free)
    · cases step
  | leave =>
    simp only [step?, leave] at step
    split at step
    · rename_i call answer reporting inside
      obtain rfl := Option.some.inj step
      have same : failureBegan call.alreadyFailing call.alreadyFailing = false := by
        cases call.alreadyFailing <;> rfl
      simpa only [finish, same, Bool.false_and, Bool.or_false] using .ends inside
    · rename_i inside
      obtain rfl := Option.some.inj step
      exact .sleeps inside
    · cases step
  | stumble => exact stumble_transition now step
  | fail =>
    simp only [step?, fail] at step
    split at step
    · rename_i call outcome inside
      obtain rfl := Option.some.inj step
      exact finish_transition now inside rfl
    · rename_i sleptOn call stumbling
      obtain rfl := Option.some.inj step
      exact finish_transition now stumbling rfl
    · cases step
  | stir =>
    simp only [step?, stir] at step
    split at step
    · rename_i parked
      obtain rfl := Option.some.inj step
      exact .stirs parked
    · cases step

theorem enterArrived_of_free {q : Queue α} {now thread : Nat} {preferred : List Nat}
    {call : Call α} (free : q.holder = none) (locks : call.operation.isInspection = false)
    : q.enterArrived now thread preferred call
      = some (q.enterWith thread call preferred (q.work now call none)) := by
  unfold enterArrived
  split
  · rename_i asks
    simp [asks, Operation.isInspection] at locks
  · rw [free]

/-- A thread that has called for a lock-held operation and finds the lock taken gets only the
answer of an operation that does not wait for it.
-/
theorem enterArrived_of_held {q : Queue α} {now thread holder : Nat} {preferred : List Nat}
    {call : Call α} (held : q.holder = some holder)
    (locks : call.operation.isInspection = false)
    : q.enterArrived now thread preferred call
      = call.operation.busy?.map fun answer =>
          { queue := q.setPhase thread .idle, answer := some answer } := by
  unfold enterArrived
  split
  · rename_i asks
    simp [asks, Operation.isInspection] at locks
  · rw [held]

/-- The sink can fail under a thread that is with it. -/
theorem step?_fail {q : Queue α} (now : Nat) {thread : Nat} {phase : Phase α} {call : Call α}
    (here : q.phase? thread = some phase) (reports : phase.atSink? = some call)
    : q.step? now thread .fail = some (q.finish thread call .sinkFailed true) := by
  rcases Phase.cases_of_atSink? reports with ⟨outcome, rfl⟩ | ⟨sleptOn, rfl⟩ <;>
    simp only [step?, fail, here]

/-- Every transition is a step, so the list says nothing that a thread cannot do. -/
theorem Transition.step? {q : Queue α} {now thread : Nat} {move : Move α}
    {progress : Progress α} (transition : q.Transition now thread move progress)
    : q.step? now thread move = some progress := by
  cases transition with
  | begins idle => simp only [Queue.step?, begin, idle]
  | inspects arrived asks => simp only [Queue.step?, enter, arrived, enterArrived, asks]
  | @refuses preferred call holder answer arrived held busy =>
    have locks : call.operation.isInspection = false := by
      cases operation : call.operation <;> simp_all [Operation.busy?, Operation.isInspection]
    simp only [Queue.step?, enter, arrived, enterArrived_of_held held locks, busy,
      Option.map_some]
  | @enters preferred call sleptOn door free locks =>
    cases sleptOn with
    | none => simp only [Queue.step?, enter, door, Call.atDoor,
        enterArrived_of_free free (locks rfl)]
    | some side => simp [Queue.step?, enter, door, Call.atDoor, free]
  | cleansUp failing free => simp [Queue.step?, enter, failing, free]
  | @ends call answer reporting inside =>
    have same : failureBegan call.alreadyFailing call.alreadyFailing = false := by
      cases call.alreadyFailing <;> rfl
    simp only [Queue.step?, leave, inside, finish, same, Bool.false_and, Bool.or_false]
    rfl
  | sleeps inside => simp only [Queue.step?, leave, inside]
  | @stumbles call sleptOn door free locks alarmed =>
    have ready : (q.alarmed && q.holder.isNone) = true := by rw [alarmed, free]; rfl
    cases sleptOn with
    | none => simp [Queue.step?, stumble, ready, door, Call.atDoor, locks rfl]
    | some side => simp [Queue.step?, stumble, ready, door, Call.atDoor]
  | fails here reports healthy careless =>
    rw [step?_fail now here reports]
    simp [finish, healthy, failureBegan, careless]
  | failsGuarded here reports healthy careful =>
    rw [step?_fail now here reports]
    simp [finish, healthy, failureBegan, careful]
  | failsAgain here reports unwinding =>
    rw [step?_fail now here reports]
    simp [finish, unwinding, failureBegan]
  | stirs parked => simp only [Queue.step?, stir, parked]

/-- The sink fails only under a thread that is with it. -/
theorem Transition.of_failure {q : Queue α} {now thread : Nat} {move : Move α}
    {progress : Progress α} (transition : q.Transition now thread move progress)
    (fails : move.isFailure = true)
    : ∃ phase call, q.phase? thread = some phase ∧ phase.atSink? = some call := by
  cases transition with
  | fails here reports | failsGuarded here reports | failsAgain here reports =>
    exact ⟨_, _, here, reports⟩
  | _ => cases fails

/-- Whoever is on the way to a free lock can go on. -/
theorem Transition.of_seeking {q : Queue α} (free : q.holder = none) (now : Nat) {thread : Nat}
    {phase : Phase α} (found : q.phase? thread = some phase) (seeks : phase.seeksLock = true)
    : ∃ progress, q.Transition now thread (.enter []) progress := by
  cases phase with
  | arrived call =>
    cases asks : call.operation with
    | inspect property => exact ⟨_, .inspects found asks⟩
    | _ => exact ⟨_, .enters none found free fun _ => by rw [asks]; rfl⟩
  | woken side call => exact ⟨_, .enters (some side) found free fun none => by cases none⟩
  | failing call => exact ⟨_, .cleansUp found free⟩
  | idle | inside | parked | stumbling => cases seeks

/-- Whoever has done its work can give the lock back. -/
theorem Transition.of_work {q : Queue α} (now : Nat) {thread : Nat} {call : Call α}
    {outcome : Outcome α} {reporting : Bool}
    (inside : q.phase? thread = some (.inside call outcome reporting))
    : ∃ progress, q.Transition now thread .leave progress := by
  cases outcome with
  | answered answer => exact ⟨_, .ends inside⟩
  | waits side time => exact ⟨_, .sleeps inside⟩

/-- Whoever is inside can give the lock back, in order or by failing. -/
theorem Transition.of_inside {q : Queue α} (now : Nat) {thread : Nat} {phase : Phase α}
    (found : q.phase? thread = some phase) (inside : phase.isInside = true)
    : ∃ move progress,
        (move = .leave ∨ move = .fail) ∧ q.Transition now thread move progress := by
  cases phase with
  | inside call outcome reporting =>
    obtain ⟨progress, leaves⟩ := Transition.of_work now found
    exact ⟨_, progress, Or.inl rfl, leaves⟩
  | stumbling sleptOn call => exact ⟨_, _, Or.inr rfl, finish_transition now found rfl⟩
  | _ => cases inside

/-- An idle thread can do nothing but begin a call. -/
theorem Transition.of_idle {q : Queue α} {now thread : Nat} {move : Move α}
    {progress : Progress α} (transition : q.Transition now thread move progress)
    (idle : q.phase? thread = some .idle)
    : ∃ call : Call α,
        move = .call call.operation call.alreadyFailing
        ∧ progress = { queue := q.setPhase thread (.arrived call) } := by
  cases transition with
  | begins => exact ⟨_, rfl, rfl⟩
  | enters sleptOn door =>
    cases sleptOn <;> cases idle.symm.trans door
  | stumbles sleptOn door =>
    cases sleptOn <;> cases idle.symm.trans door
  | fails here reports | failsGuarded here reports | failsAgain here reports =>
    obtain rfl := Option.some.inj (idle.symm.trans here)
    cases reports
  | inspects here | refuses here | cleansUp here | ends here | sleeps here | stirs here =>
    cases idle.symm.trans here

end Queue

end Conduit
