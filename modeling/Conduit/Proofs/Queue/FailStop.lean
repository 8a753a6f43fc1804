import Conduit.Proofs.Queue.Conservation
import Conduit.Proofs.Queue.Failures
import Conduit.Proofs.Queue.Wakeups

/-! A queue whose log sink fails under the lock stops safely.
The failing thread leaves the lock poisoned behind and may close the queue only later on, but
from the poisoned release on the queue counts as closed for whoever takes the lock, so that it
makes no difference who comes first.
-/

namespace Conduit

variable {α : Type}

/-- Whether an operation takes one element. -/
def Operation.isPop : Operation α → Bool
  | .waitPop _ | .tryPop | .nonblockingPop => true
  | _ => false

namespace Queue

-----------------------------------------------------------------------------------------
-- Since when a thread has been inside
-----------------------------------------------------------------------------------------

/-- Whoever gets inside in a step, to work, finds the lock free. -/
theorem Transition.free_of_inside {q : Queue α} {now thread : Nat} {move : Move α}
    {progress : Progress α} (transition : q.Transition now thread move progress)
    {call : Call α} {outcome : Outcome α} {reporting : Bool}
    (inside : progress.queue.phase? thread = some (.inside call outcome reporting))
    : q.holder = none ∧ ∃ preferred, move = .enter preferred := by
  cases transition with
  | enters sleptOn door free locks => exact ⟨free, _, rfl⟩
  | cleansUp failing free => exact ⟨free, _, rfl⟩
  | stumbles sleptOn door => cases inside.symm.trans (phase?_setPhase_self door _)
  | begins here | inspects here | refuses here | ends here | sleeps here | fails here
  | failsGuarded here | failsAgain here | stirs here =>
    cases inside.symm.trans (phase?_setPhase_self here _)

/-- Whoever is inside has taken the free lock at one step of the run and has not moved since,
nor has anybody changed the list; by induction on the run, up to that step.
-/
theorem Run.entry {slotBytes threads : Nat} {clock : Clock} {config : Config} {values : List α}
    {fresh q : Queue α} {history : List (Turn α)}
    (created : (ofConfigAndItems slotBytes config (.ofList values)).result = .ok fresh)
    (run : Run (fresh.withThreads clock threads) history q) {thread : Nat} {call : Call α}
    {outcome : Outcome α} {reporting : Bool}
    (inside : q.phase? thread = some (.inside call outcome reporting))
    : ∃ early entry others met,
        history = early ++ entry :: others
        ∧ Run (fresh.withThreads clock threads) early met
        ∧ met.step? entry.now entry.thread entry.move = some entry.progress
        ∧ met.holder = none
        ∧ (∃ preferred, entry.move = .enter preferred)
        ∧ entry.thread = thread
        ∧ entry.progress.queue.phase? thread = some (.inside call outcome reporting)
        ∧ entry.progress.queue.fifo = q.fifo
        ∧ ∀ turn ∈ others, turn.thread ≠ thread := by
  induction run with
  | start => cases phase?_withThreads inside
  | @step history met turn before made ih =>
    have transition := Transition.of_step? made
    by_cases same : turn.thread = thread
    · subst same
      obtain ⟨free, enters⟩ := transition.free_of_inside inside
      exact ⟨history, turn, [], met, rfl, before, made, free, enters, rfl, inside, rfl,
        fun _ none => by cases none⟩
    · rcases transition.others (Ne.symm same) with kept | ⟨side, asks, _, woken⟩
      · have here := kept.symm.trans inside
        obtain ⟨early, entry, others, start, rfl, first, enters, free, move, own, entered,
          list, different⟩ := ih here
        have still :=
          ((before.orderly created).undisturbed here rfl same transition).2
        refine ⟨early, entry, others ++ [turn], start, by simp, first, enters, free, move, own,
          entered, list.trans still.symm, ?_⟩
        intro other member
        rcases List.mem_append.mp member with earlier | newest
        · exact different other earlier
        · obtain rfl := List.mem_singleton.mp newest
          exact same
      · cases woken.symm.trans inside

-----------------------------------------------------------------------------------------
-- A failure ends the stream
-----------------------------------------------------------------------------------------

/-- From the poisoned release on, the queue counts as closed and has the elements that it had.
-/
theorem Known.ending_of_failure {q : Queue α} (known : q.Known fun _ => True)
    {now thread : Nat} {move : Move α} {progress : Progress α}
    (transition : q.Transition now thread move progress) (failure : move.isFailure = true)
    (poisoned : progress.queue.poisoned = true)
    : progress.queue.Known (Fifo.Ending q.state.ring.toList) := by
  have after := known.transition Fifo.stable_true transition
  have closed := fifo_closed_of_poisoned poisoned
  cases transition with
  | fails | failsGuarded | failsAgain => exact after.learn rfl ⟨closed, List.suffix_refl _⟩
  | _ => cases failure

/-- Either no failure of the sink has poisoned the lock, or the stream has ended. -/
theorem Run.sane_or_ending {start q : Queue α} {history : List (Turn α)}
    (run : Run start history q) (known : start.Known fun _ => True)
    : (∀ turn ∈ history, turn.poisons = false)
      ∨ ∃ elements, q.Known (Fifo.Ending elements) := by
  induction run with
  | start => exact Or.inl fun _ none => by cases none
  | @step history met turn before made ih =>
    have transition := Transition.of_step? made
    rcases ih with sane | ⟨elements, ending⟩
    · cases poisons : turn.poisons with
      | true =>
        obtain ⟨failure, poisoned⟩ := Bool.and_eq_true_iff.mp poisons
        have here := before.known Fifo.stable_true known
        exact Or.inr ⟨_, here.ending_of_failure transition failure poisoned⟩
      | false =>
        refine Or.inl fun other member => ?_
        rcases List.mem_append.mp member with earlier | newest
        · exact sane other earlier
        · obtain rfl := List.mem_singleton.mp newest
          exact poisons
    · exact Or.inr ⟨elements, ending.transition (Fifo.stable_ending elements) transition⟩

/-- Where nobody stumbles, the sink fails only while no failure has poisoned the lock. -/
theorem Run.sane_before {slotBytes threads : Nat} {clock : Clock} {config : Config}
    {values : List α} {fresh q : Queue α} {history : List (Turn α)}
    (created : (ofConfigAndItems slotBytes config (.ofList values)).result = .ok fresh)
    (run : Run (fresh.withThreads clock threads) history q) (steady : Steady history)
    {now thread : Nat} {progress : Progress α}
    (fails : q.Transition now thread .fail progress)
    : ∀ turn ∈ history, turn.poisons = false := by
  refine (run.sane_or_ending (Run.known_of_created created .start)).resolve_right ?_
  rintro ⟨elements, ended⟩
  cases ended.healthy fails (run.upright steady upright_withThreads)

/-- Whoever calls a pop and finds the lock free gets the first element, whatever the others do
meanwhile.
-/
theorem Orderly.pops {q : Queue α} (orderly : q.Orderly) {now thread : Nat}
    {sleptOn : Option Side} {call : Call α} {value : α} {rest : List α} (free : q.holder = none)
    (door : q.phase? thread = some (call.atDoor sleptOn)) (pop : call.operation.isPop = true)
    (elements : q.state.ring.toList = value :: rest) (preferred : List Nat)
    : ∃ progress,
        q.step? now thread (.enter preferred) = some progress
        ∧ progress.queue.state.ring.toList = rest
        ∧ ∀ {others late},
            Run progress.queue others late
            → (∀ turn ∈ others, turn.thread ≠ thread)
            → ∀ later,
              ∃ ended,
                late.step? later thread .leave = some ended
                ∧ ended.answer = some (.pop (.ok value)) := by
  have locks : call.operation.isInspection = false := by
    cases operation : call.operation with
    | inspect =>
      rw [operation] at pop
      cases pop
    | _ => rfl
  have served
      : q.fifo.serve (expired call.deadline now) call.operation
        = .answers (.pop (.ok value)) { q.fifo with elements := rest } := by
    have first : q.fifo.elements = value :: rest := elements
    cases operation : call.operation with
    | waitPop | tryPop | nonblockingPop => simp only [Fifo.serve, Fifo.pop, first]
    | _ =>
      rw [operation] at pop
      cases pop
  obtain ⟨worked, answered⟩ :=
    worked_of_work orderly.sound now call sleptOn (orderly.came door)
  have enters : q.Transition now thread (.enter preferred) _ :=
    .enters sleptOn door free fun _ => locks
  refine ⟨_, enters.step?, ?_, fun late different later => ?_⟩
  · have response := answered.response
    rw [served, Section.response] at response
    cases result : (q.work now call sleptOn).result with
    | answered answer =>
      rw [result] at response
      exact (congrArg Fifo.elements (Fifo.Response.answers.inj response).2).symm
    | waits =>
      rw [result] at response
      cases response
  · obtain ⟨ended, leaves, concludes⟩ :=
      orderly.concludes now door preferred late different free (fun _ => locks) later
    unfold Concludes at concludes
    rw [served] at concludes
    exact ⟨ended, leaves, concludes.1⟩

-----------------------------------------------------------------------------------------
-- The call that the sink has failed under
-----------------------------------------------------------------------------------------

/-- Whoever is with the sink is in a call that is not lost. -/
theorem Orderly.found_of_atSink {q : Queue α} (orderly : q.Orderly) {thread : Nat}
    {phase : Phase α} {call : Call α} (here : q.phase? thread = some phase)
    (reports : phase.atSink? = some call)
    : phase.isLost = false := by
  rcases Phase.cases_of_atSink? reports with ⟨outcome, rfl⟩ | ⟨sleptOn, rfl⟩
  · obtain ⟨answer, rfl, reported⟩ := orderly.answered_of_reporting here
    cases answer with
    | sinkFailed => cases reported
    | _ => rfl
  · rfl

/-- The thread of a lost call stays in it until its caller learns that the sink has failed. -/
theorem Orderly.lost_self {q : Queue α} (orderly : q.Orderly) {now thread : Nat}
    {move : Move α} {progress : Progress α} {phase : Phase α}
    (transition : q.Transition now thread move progress)
    (found : q.phase? thread = some phase) (lost : phase.isLost = true)
    : (progress.answer = none
        ∧ ∃ new, progress.queue.phase? thread = some new ∧ new.isLost = true)
      ∨ progress.answer = some .sinkFailed ∧ progress.queue.phase? thread = some .idle := by
  cases transition with
  | begins here | inspects here | refuses here | sleeps here | stirs here =>
    obtain rfl := Option.some.inj (found.symm.trans here)
    cases lost
  | enters sleptOn door | stumbles sleptOn door =>
    obtain rfl := Option.some.inj (found.symm.trans door)
    cases sleptOn <;> cases lost
  | fails here reports | failsGuarded here reports | failsAgain here reports =>
    obtain rfl := Option.some.inj (found.symm.trans here)
    cases (orderly.found_of_atSink here reports).symm.trans lost
  | cleansUp failing =>
    refine Or.inl ⟨rfl, _, phase?_enterWith_self failing, ?_⟩
    unfold entered
    rw [(worked_of_failureWork orderly.sound).2.2.1]
    rfl
  | @ends call answer reporting here =>
    obtain rfl := Option.some.inj (found.symm.trans here)
    cases answer with
    | sinkFailed => exact Or.inr ⟨rfl, phase?_setPhase_self here _⟩
    | _ => cases lost

/-- Whoever has stumbled over a poisoned lock is told of a failure of the sink, or is still on
the way to it; by induction on the run.
-/
theorem Run.told_of_stumble {q last : Queue α} {late : List (Turn α)} (run : Run q late last)
    (orderly : q.Orderly) {thread : Nat} (stumbled : Stumbled late thread)
    : .sinkFailed ∈ repliesTo late thread
      ∨ ∃ phase,
        last.phase? thread = some phase
        ∧ (phase.isLost = true ∨ ∃ sleptOn call, phase = .stumbling sleptOn call) := by
  induction run with
  | start =>
    obtain ⟨_, member, _⟩ := stumbled
    cases member
  | @step history met turn before made ih =>
    have transition := Transition.of_step? made
    have known := (before.elements orderly).1
    rw [repliesTo_append, List.mem_append, or_assoc]
    by_cases stumbles : turn.thread = thread ∧ turn.move.isStumble = true
    · obtain ⟨rfl, stumbles⟩ := stumbles
      obtain ⟨sleptOn, call, there⟩ := transition.stumbling_of_stumble stumbles
      exact Or.inr (Or.inr ⟨_, there, Or.inr ⟨sleptOn, call, rfl⟩⟩)
    obtain ⟨earlier, member, own, again⟩ := stumbled
    have stumbled : Stumbled history thread := by
      rcases List.mem_append.mp member with older | newest
      · exact ⟨earlier, older, own, again⟩
      · obtain rfl := List.mem_singleton.mp newest
        exact absurd ⟨own, again⟩ stumbles
    refine (ih stumbled).imp_right ?_
    rintro ⟨old, found, ahead⟩
    by_cases same : turn.thread = thread
    · subst same
      rcases ahead with lost | ⟨sleptOn, call, rfl⟩
      · rcases known.lost_self transition found lost with ⟨_, new, there, still⟩ | ⟨told, _⟩
        · exact Or.inr ⟨new, there, Or.inl still⟩
        · exact Or.inl (by simp [repliesTo, told])
      · rcases transition.of_stumbling found with told | ⟨_, failing⟩
        · exact Or.inl (by simp [repliesTo, told])
        · exact Or.inr ⟨_, failing, Or.inl rfl⟩
    · rcases transition.others (Ne.symm same) with still | ⟨side, call, parked, _⟩
      · exact Or.inr ⟨old, still.trans found, ahead⟩
      · obtain rfl := Option.some.inj (found.symm.trans parked)
        rcases ahead with lost | ⟨_, _, other⟩
        · cases lost
        · cases other

/-- A lost call ends with the failure of the sink and nothing else; once its caller has been
told, no other call of it is lost.
-/
theorem Run.lost_until_told {q last : Queue α} {late : List (Turn α)} (run : Run q late last)
    (orderly : q.Orderly) (sane : ∀ turn ∈ late, turn.poisons = false) {thread : Nat}
    {phase : Phase α} (found : q.phase? thread = some phase) (lost : phase.isLost = true)
    : (repliesTo late thread = []
        ∧ ∃ new, last.phase? thread = some new ∧ new.isLost = true)
      ∨ (repliesTo late thread).head? = some .sinkFailed
        ∧ ∀ new, last.phase? thread = some new → new.isLost = false := by
  induction run with
  | start => exact Or.inl ⟨rfl, phase, found, lost⟩
  | @step history met turn before made ih =>
    have transition := Transition.of_step? made
    have known := (before.elements orderly).1
    have kept := sane turn (List.mem_append_right _ (List.mem_singleton_self turn))
    rcases ih fun other member => sane other (List.mem_append_left _ member) with
      ⟨nothing, old, here, gone⟩ | ⟨told, past⟩
    · by_cases same : turn.thread = thread
      · subst same
        rw [repliesTo_step_self, nothing]
        rcases known.lost_self transition here gone with ⟨answer, still⟩ | ⟨answer, idle⟩
        · rw [answer]
          exact Or.inl ⟨rfl, still⟩
        · rw [answer]
          refine Or.inr ⟨rfl, fun new after => ?_⟩
          obtain rfl := Option.some.inj (idle.symm.trans after)
          rfl
      · rw [repliesTo_step_other history same]
        rcases transition.others (Ne.symm same) with still | ⟨side, call, parked, _⟩
        · exact Or.inl ⟨nothing, old, still.trans here, gone⟩
        · obtain rfl := Option.some.inj (here.symm.trans parked)
          cases gone
    · refine Or.inr ⟨?_, fun new after => ?_⟩
      · rw [repliesTo_append, List.head?_append, told]
        rfl
      · cases again : new.isLost with
        | false => rfl
        | true =>
          rcases known.lost_cases transition after again with ⟨old, here, gone⟩ | ⟨_, fails⟩
          · cases (past old here).symm.trans gone
          · cases kept.symm.trans (Bool.and_eq_true_iff.mpr fails)

/-- A thread that has cleaned up tells its caller of the failure when it gives the lock back. -/
theorem tellsLoss_of_inside {q : Queue α} {thread : Nat} {call : Call α} {reporting : Bool}
    (inside : q.phase? thread = some (.inside call (.answered .sinkFailed) reporting))
    : ∃ more final, Run q more final ∧ repliesTo more thread = [.sinkFailed] := by
  have leaves : q.Transition 0 thread .leave _ := .ends inside
  exact ⟨_, _, leaves.run, by simp [repliesTo]⟩

/-- A thread that has to clean up can do so as soon as the lock is free. -/
theorem Orderly.tellsLoss_of_free {q : Queue α} (orderly : q.Orderly) {thread : Nat}
    {call : Call α} (failing : q.phase? thread = some (.failing call)) (free : q.holder = none)
    : ∃ more final, Run q more final ∧ repliesTo more thread = [.sinkFailed] := by
  have enters : q.Transition 0 thread (.enter []) _ := .cleansUp failing free
  have inside
      : (q.enterWith thread { call with alreadyFailing := true } []
            q.failureWork).queue.phase? thread
        = some _ := phase?_enterWith_self failing
  unfold entered at inside
  rw [(worked_of_failureWork orderly.sound).2.2.1] at inside
  obtain ⟨more, final, rest, told⟩ := tellsLoss_of_inside inside
  refine ⟨_, _, enters.run.append rest, ?_⟩
  rw [repliesTo_append, told]
  simp [repliesTo, enterWith]

/-- Whoever holds the lock can give it back, and leaves a thread alone that has to clean up. -/
theorem Orderly.released {q : Queue α} (orderly : q.Orderly) {thread holder : Nat}
    {call : Call α} (failing : q.phase? thread = some (.failing call))
    (held : q.holder = some holder)
    : ∃ move progress,
        q.Transition 0 holder move progress
        ∧ holder ≠ thread
        ∧ progress.queue.holder = none
        ∧ progress.queue.phase? thread = some (.failing call) := by
  obtain ⟨phase, here, inside⟩ := orderly.held held
  have different : thread ≠ holder := by
    intro same
    subst same
    obtain rfl := Option.some.inj (failing.symm.trans here)
    cases inside
  obtain ⟨move, progress, leaves, transition⟩ := Transition.of_inside 0 here inside
  refine ⟨move, progress, transition, Ne.symm different, ?_, ?_⟩
  · rcases leaves with rfl | rfl <;> cases transition <;> rfl
  · rcases transition.others different with kept | ⟨side, asks, parked, _⟩
    · exact kept.trans failing
    · cases failing.symm.trans parked

/-- A lost call comes to its end: as soon as whoever holds the lock has given it back, its
thread can close the queue and tell its caller.
-/
theorem Orderly.tellsLoss {q : Queue α} (orderly : q.Orderly) {thread : Nat} {phase : Phase α}
    (found : q.phase? thread = some phase) (lost : phase.isLost = true)
    : ∃ more final, Run q more final ∧ repliesTo more thread = [.sinkFailed] := by
  cases phase with
  | inside call outcome reporting =>
    cases outcome with
    | answered answer =>
      cases answer with
      | sinkFailed => exact tellsLoss_of_inside found
      | _ => cases lost
    | waits => cases lost
  | failing call =>
    cases held : q.holder with
    | none => exact orderly.tellsLoss_of_free found held
    | some holder =>
      obtain ⟨move, progress, leaves, different, free, still⟩ := orderly.released found held
      obtain ⟨more, final, rest, told⟩ :=
        (orderly.transition leaves).tellsLoss_of_free still free
      refine ⟨_, _, leaves.run.append rest, ?_⟩
      rw [repliesTo_append, told]
      simp [repliesTo, different]
  | _ => cases lost

end Queue

-----------------------------------------------------------------------------------------
-- The accounts of lost calls
-----------------------------------------------------------------------------------------

namespace Account

/-- The operations of the calls among these that the sink has failed under. -/
def lost (accounts : List (Account α)) : List (Operation α) :=
  (accounts.filter failed).map operation

/-- No step but a failure of the sink makes a call a lost one. -/
theorem lost_enter_of_healthy (accounts : List (Account α)) {turn : Turn α}
    (healthy : turn.move.isFailure = false)
    : lost (enter accounts turn) = lost accounts := by
  unfold enter
  split
  · rfl
  · cases accounts with
    | nil => rfl
    | cons newest earlier =>
      cases failed : newest.failed <;> simp [lost, note, healthy, failed]

/-- The newest call of a thread that is with the sink is the one that it is in. -/
theorem Kept.newest_of_atSink {accounts : List (Account α)} {phase : Phase α} {call : Call α}
    (kept : Kept accounts phase) (reports : phase.atSink? = some call)
    : ∃ newest earlier,
        accounts = newest :: earlier ∧ newest.operation = call.operation := by
  cases accounts with
  | nil =>
    obtain rfl := kept
    cases reports
  | cons newest earlier =>
    refine ⟨newest, earlier, rfl, ?_⟩
    rcases Phase.cases_of_atSink? reports with ⟨outcome, rfl⟩ | ⟨sleptOn, rfl⟩
    · cases outcome with
      | answered answer => exact kept.1.1
      | waits side time => exact congrArg operation kept.1
    · exact congrArg operation kept.1

/-- A failure of the sink makes the newest call a lost one. -/
theorem lost_enter_of_failure {newest : Account α} {earlier : List (Account α)} {turn : Turn α}
    (failure : turn.move.isFailure = true) (none : lost (newest :: earlier) = [])
    : lost (enter (newest :: earlier) turn) = [newest.operation] := by
  have before : lost earlier = [] := by
    cases failed : newest.failed <;> simp_all [lost]
  unfold enter
  split
  · rename_i call
    rw [call] at failure
    cases failure
  · simp only [lost] at before ⊢
    simp only [note, failure, Bool.or_true, List.filter_cons_of_pos, List.map_cons, before]

end Account

namespace Queue

/-- Nothing is lost in the course of steps in which the sink does not fail, by induction on
them.
-/
theorem lost_append_of_healthy (history : List (Turn α)) {late : List (Turn α)}
    (healthy : ∀ turn ∈ late, turn.move.isFailure = false) (thread : Nat)
    : Account.lost (accounts (history ++ late) thread)
      = Account.lost (accounts history thread) := by
  induction late generalizing history with
  | nil => rw [List.append_nil]
  | cons turn rest ih =>
    have later := ih (history ++ [turn]) fun other member =>
      healthy other (List.mem_cons_of_mem _ member)
    rw [List.append_assoc, List.singleton_append] at later
    rw [later]
    by_cases same : turn.thread = thread
    · subst same
      rw [accounts_step_self]
      exact Account.lost_enter_of_healthy _ (healthy turn (List.mem_cons_self ..))
    · rw [accounts_step_other history same]


-----------------------------------------------------------------------------------------
-- Everything that can follow
-----------------------------------------------------------------------------------------

/-- What is relied on in a history: the log sink does not fail in reports of a poisoned lock,
and wherever else it fails the lock is poisoned. Only a lock that has been taken by a thread
that was failing already stays as it was.
-/
structure Reliable (history : List (Turn α)) : Prop where
  steady : Steady history
  poisons : ∀ turn ∈ history, turn.move.isFailure = true → turn.poisons = true

/-- What the failure of the sink in step `failure` from `q`, under a call of its thread, has
led to. The event was that of a close or of a wait whose time was up, and it came after work
that changed no element. Every later caller that takes the lock works on a closed queue;
nothing is stored any more, and the elements leave from the front. Once the thread has
cleaned up nobody sleeps. Pushes end with their own value refused and pops with an element
or the end of the stream, apart from the one call that the sink has failed under, whose
caller learns just that and who alone has lost its value.
-/
structure FailStopped (start : Queue α) (history : List (Turn α)) (q : Queue α)
    (failure : Turn α) (call : Call α) (late : List (Turn α)) (last : Queue α)
    : Prop where
  event
    : ∃ answer,
        q.phase? failure.thread = some (.inside call (.answered answer) true)
        ∧ (call.operation = .close ∧ answer = .done
          ∨ call.deadline.isSome = true
            ∧ ((∃ value timeout,
                  call.operation = .waitPush value timeout
                  ∧ answer = .push (.error (.timedOut value)))
              ∨ ∃ timeout,
                call.operation = .waitPop timeout ∧ answer = .pop (.error .timedOut)))
  untouched
    : ∃ early entry others met,
        history = early ++ entry :: others
        ∧ Run start early met
        ∧ met.step? entry.now entry.thread entry.move = some entry.progress
        ∧ met.holder = none
        ∧ entry.thread = failure.thread
        ∧ (∀ turn ∈ others, turn.thread ≠ failure.thread)
        ∧ met.state.ring.toList = failure.progress.queue.state.ring.toList
  meets : (last.state.recover last.poisoned).state.closed = true
  marks
    : ∀ {now thread move progress},
        last.holder = none
        → last.step? now thread move = some progress
        → move.isStumble = false
        → progress.queue.holder = some thread
        → progress.queue.state.closed = true
  refuses
    : storedBy late = []
      ∧ ∀ turn ∈ late, ∀ answer, turn.progress.answer = some answer → answer.isAccepted = false
  order
    : failure.progress.queue.state.ring.toList
      = (takenBy late).map Prod.snd ++ last.state.ring.toList
  pops
    : ∀ {now thread sleptOn preferred value rest} {asks : Call α},
        last.holder = none
        → last.phase? thread = some (asks.atDoor sleptOn)
        → asks.operation.isPop = true
        → last.state.ring.toList = value :: rest
        → ∃ progress,
          last.step? now thread (.enter preferred) = some progress
          ∧ progress.queue.state.ring.toList = rest
          ∧ ∀ {others after},
              Run progress.queue others after
              → (∀ turn ∈ others, turn.thread ≠ thread)
              → ∀ later,
                ∃ ended,
                  after.step? later thread .leave = some ended
                  ∧ ended.answer = some (.pop (.ok value))
  awake
    : (∀ asks, last.phase? failure.thread ≠ some (.failing asks))
      → last.state.closed = true ∧ ∀ side, last.parked side = 0
  answers
    : ∀ {now thread move progress answer},
        last.step? now thread move = some progress
        → progress.answer = some answer
        → (∃ phase operation deadline,
            last.phase? thread = some phase
            ∧ phase.terms? = some (operation, deadline)
            ∧ operation.EndsWith failure.progress.queue.state.ring.toList answer)
          ∨ thread = failure.thread
            ∧ failure.progress.answer = none
            ∧ repliesTo late thread = []
            ∧ answer = .sinkFailed
  told
    : ∀ answer,
        (repliesTo (failure :: late) failure.thread).head? = some answer
        → answer = .sinkFailed
  tells
    : ∃ more final,
        Run last more final
        ∧ (repliesTo (failure :: late ++ more) failure.thread).head? = some .sinkFailed
  lost
    : ∀ thread,
        Account.lost (accounts (history ++ failure :: late) thread)
        = if thread = failure.thread then [call.operation] else []
  places
    : ∀ {thread account value},
        account ∈ accounts (history ++ failure :: late) thread
        → account.operation.offered? = some value
        → account.HasPlace (last.phase? thread) value

section
variable {slotBytes threads : Nat} {clock : Clock} {config : Config} {values : List α}
  {fresh q last : Queue α} {history late : List (Turn α)}

/-- While no failure of the sink has poisoned the lock, no call is lost. -/
theorem Run.nobody_lost
    (created : (ofConfigAndItems slotBytes config (.ofList values)).result = .ok fresh)
    (run : Run (fresh.withThreads clock threads) history q)
    (sane : ∀ turn ∈ history, turn.poisons = false) {thread : Nat} {phase : Phase α}
    (found : q.phase? thread = some phase)
    : phase.isLost = false := by
  cases lost : phase.isLost with
  | false => rfl
  | true =>
    obtain ⟨old, idle, gone⟩ := run.lost_before (.of_created created) sane found lost
    obtain rfl := phase?_withThreads idle
    cases gone

/-- What a reported event has been preceded by under the lock has left the elements alone. -/
theorem Run.untouched
    (created : (ofConfigAndItems slotBytes config (.ofList values)).result = .ok fresh)
    (run : Run (fresh.withThreads clock threads) history q) {thread : Nat} {call : Call α}
    {answer : Answer α} {reporting : Bool}
    (inside : q.phase? thread = some (.inside call (.answered answer) reporting))
    (reported : answer.isReported = true)
    : ∃ early entry others met,
        history = early ++ entry :: others
        ∧ Run (fresh.withThreads clock threads) early met
        ∧ met.step? entry.now entry.thread entry.move = some entry.progress
        ∧ met.holder = none
        ∧ entry.thread = thread
        ∧ (∀ turn ∈ others, turn.thread ≠ thread)
        ∧ met.state.ring.toList = q.state.ring.toList := by
  obtain ⟨early, entry, others, met, split, first, enters, free, ⟨preferred, move⟩, own,
    entered, list, different⟩ := run.entry created inside
  refine ⟨early, entry, others, met, split, first, enters, free, own, different, ?_⟩
  obtain ⟨refused, nothing⟩ := Answer.isReported_values reported
  have settled : entry.settles? = some (call.operation, answer) := by
    simp only [Turn.settles?, move, own, entered]
  have same := (first.orderly created).elements enters
  rw [Turn.stored, Turn.taken, settled] at same
  simp only [accepted_of_refused refused, nothing, List.append_nil, List.nil_append] at same
  exact same.trans (congrArg Fifo.elements list)

/-- The sink fails under a thread that is with it. The lock is free from then on, and either
the call has ended with the failure or its thread has yet to clean up, with the lock poisoned.
-/
theorem Transition.of_fail {now thread : Nat} {progress : Progress α}
    (transition : q.Transition now thread .fail progress)
    : ∃ call phase,
        q.phase? thread = some phase
        ∧ phase.atSink? = some call
        ∧ progress.queue.holder = none
        ∧ progress.queue.state = q.state
        ∧ (progress.answer = some .sinkFailed
            ∧ progress.queue.phase? thread = some .idle
          ∨ progress.answer = none ∧ progress.queue.phase? thread = some (.failing call)) := by
  cases transition with
  | fails here reports | failsAgain here reports =>
    exact ⟨_, _, here, reports, rfl, rfl, Or.inl ⟨rfl, phase?_setPhase_self here _⟩⟩
  | failsGuarded here reports =>
    exact ⟨_, _, here, reports, rfl, rfl, Or.inr ⟨rfl, phase?_setPhase_self here _⟩⟩

/-- In a run on which everything relies that is relied on, there has been no failure before. -/
theorem Reliable.first_failure
    (created : (ofConfigAndItems slotBytes config (.ofList values)).result = .ok fresh)
    (run : Run (fresh.withThreads clock threads) history q) (reliable : Reliable history)
    {now thread : Nat} {progress : Progress α}
    (fails : q.Transition now thread .fail progress)
    : ∀ turn ∈ history, turn.move.isFailure = false := by
  have sane := run.sane_before created reliable.steady fails
  intro turn member
  cases failure : turn.move.isFailure with
  | false => rfl
  | true => cases (sane turn member).symm.trans (reliable.poisons turn member failure)

/-- What is known once the sink has failed under a call in step `failure` from `q`, after a run
without any failure: the lock is free then, the call has ended or its thread has yet to clean
up, and the stream has ended for everybody who comes later.
-/
structure Aftermath (q : Queue α) (failure : Turn α) (call : Call α) (late : List (Turn α))
    (last : Queue α) : Prop where
  before : q.Known fun _ => True
  unlost : ∀ {other phase}, q.phase? other = some phase → phase.isLost = false
  transition : q.Transition failure.now failure.thread failure.move failure.progress
  fate
    : failure.progress.answer = some .sinkFailed
        ∧ failure.progress.queue.phase? failure.thread = some .idle
      ∨ failure.progress.answer = none
        ∧ failure.progress.queue.phase? failure.thread = some (.failing call)
  ending
    : failure.progress.queue.Known (Fifo.Ending failure.progress.queue.state.ring.toList)
  rest : Run failure.progress.queue late last
  quiet : ∀ turn ∈ late, turn.move.isFailure = false

namespace Aftermath

variable {failure : Turn α} {call : Call α}

theorem sane (aftermath : Aftermath q failure call late last)
    : ∀ turn ∈ late, turn.poisons = false :=
  fun turn member => Turn.poisons_of_healthy (aftermath.quiet turn member)

/-- What is known of the list after the failure holds of every later state. -/
theorem final (aftermath : Aftermath q failure call late last)
    : last.Known (Fifo.Ending failure.progress.queue.state.ring.toList) :=
  aftermath.rest.known (Fifo.stable_ending _) aftermath.ending

/-- Only the thread under which the sink has failed can be in a lost call. -/
theorem alone (aftermath : Aftermath q failure call late last) {other : Nat}
    {phase : Phase α} (found : last.phase? other = some phase) (lost : phase.isLost = true)
    : other = failure.thread
      ∧ failure.progress.answer = none
      ∧ failure.progress.queue.phase? failure.thread = some (.failing call) := by
  obtain ⟨old, here, gone⟩ :=
    aftermath.rest.lost_before aftermath.ending.orderly aftermath.sane found lost
  rcases aftermath.before.orderly.lost_cases aftermath.transition here gone with
    ⟨before, there, lost⟩ | ⟨rfl, _⟩
  · cases (aftermath.unlost there).symm.trans lost
  · refine ⟨rfl, ?_⟩
    rcases aftermath.fate with ⟨_, idle⟩ | failing
    · obtain rfl := Option.some.inj (idle.symm.trans here)
      cases gone
    · exact failing

/-- Once the thread has cleaned up, the queue is marked closed. -/
theorem closed (aftermath : Aftermath q failure call late last)
    (done : ∀ asks, last.phase? failure.thread ≠ some (.failing asks))
    : last.state.closed = true := by
  have counts : (last.state.closed || last.poisoned) = true := aftermath.final.meets.closed
  cases poisoned : last.poisoned with
  | false => rwa [poisoned, Bool.or_false] at counts
  | true =>
    refine (aftermath.final.orderly.excused poisoned).resolve_right ?_
    rintro ⟨other, asks, failing⟩
    obtain ⟨rfl, _⟩ := aftermath.alone failing rfl
    exact done asks failing

/-- What every later call ends with. -/
theorem answers (aftermath : Aftermath q failure call late last) {now thread : Nat}
    {move : Move α} {progress : Progress α} {answer : Answer α}
    (transition : last.Transition now thread move progress)
    (upright : last.Upright) (answered : progress.answer = some answer)
    : (∃ phase operation deadline,
        last.phase? thread = some phase
        ∧ phase.terms? = some (operation, deadline)
        ∧ operation.EndsWith failure.progress.queue.state.ring.toList answer)
      ∨ thread = failure.thread
        ∧ failure.progress.answer = none
        ∧ repliesTo late thread = []
        ∧ answer = .sinkFailed := by
  obtain ⟨phase, operation, deadline, found, asks, _, replies⟩ :=
    aftermath.final.reply transition answered
  rcases replies.endsWith with rfl | ends
  · rcases transition.lost_of_sinkFailed answered with again | ⟨old, here, lost⟩
    · cases (aftermath.final.healthy transition upright).symm.trans again
    · obtain ⟨rfl, silent, failing⟩ := aftermath.alone here lost
      refine Or.inr ⟨rfl, silent, ?_, rfl⟩
      rcases aftermath.rest.lost_until_told aftermath.ending.orderly aftermath.sane failing rfl
        with ⟨untold, _⟩ | ⟨_, past⟩
      · exact untold
      · cases (past old here).symm.trans lost
  · exact Or.inl ⟨phase, operation, deadline, found, asks, ends⟩

/-- The caller learns of the failure first, or has not learnt anything yet and its call is
still lost.
-/
theorem told (aftermath : Aftermath q failure call late last)
    : (repliesTo (failure :: late) failure.thread).head? = some .sinkFailed
      ∨ repliesTo (failure :: late) failure.thread = []
        ∧ ∃ phase, last.phase? failure.thread = some phase ∧ phase.isLost = true := by
  have newest
      : repliesTo (failure :: late) failure.thread
        = failure.progress.answer.toList ++ repliesTo late failure.thread := by
    rw [← List.nil_append (failure :: late), ← List.singleton_append, ← List.append_assoc,
      repliesTo_append, repliesTo_step_self]
    rfl
  rw [newest]
  rcases aftermath.fate with ⟨answered, _⟩ | ⟨silent, failing⟩
  · rw [answered]
    exact Or.inl rfl
  · rw [silent, Option.toList_none, List.nil_append]
    exact (aftermath.rest.lost_until_told aftermath.ending.orderly aftermath.sane failing
      rfl).symm.imp And.left id

/-- Sooner or later the caller can learn of the failure. -/
theorem tells (aftermath : Aftermath q failure call late last)
    : ∃ more final,
        Run last more final
        ∧ (repliesTo (failure :: late ++ more) failure.thread).head? = some .sinkFailed := by
  rcases aftermath.told with told | ⟨untold, phase, found, lost⟩
  · refine ⟨[], last, .start, ?_⟩
    rw [List.append_nil]
    exact told
  · obtain ⟨more, past, run, tells⟩ := aftermath.final.orderly.tellsLoss found lost
    refine ⟨more, past, run, ?_⟩
    rw [repliesTo_append, untold, tells]
    rfl

/-- No call but that one is lost. -/
theorem lost (aftermath : Aftermath q failure call late last)
    (created : (ofConfigAndItems slotBytes config (.ofList values)).result = .ok fresh)
    (run : Run (fresh.withThreads clock threads) history q)
    (healthy : ∀ turn ∈ history, turn.move.isFailure = false)
    (fails : failure.move.isFailure = true) {phase : Phase α}
    (here : q.phase? failure.thread = some phase) (reports : phase.atSink? = some call)
    (other : Nat)
    : Account.lost (accounts (history ++ failure :: late) other)
      = if other = failure.thread then [call.operation] else [] := by
  have before : ∀ thread, Account.lost (accounts history thread) = [] :=
    lost_append_of_healthy [] healthy
  rw [← List.singleton_append, ← List.append_assoc,
    lost_append_of_healthy _ aftermath.quiet]
  split
  · rename_i same
    subst same
    rw [accounts_step_self]
    obtain ⟨newest, earlier, entries, asks⟩ :=
      ((run.booked created failure.thread).kept here).newest_of_atSink reports
    rw [entries, Account.lost_enter_of_failure fails (entries ▸ before failure.thread), asks]
  · rename_i different
    rw [accounts_step_other history (Ne.symm different)]
    exact before other

end Aftermath

/-- A failure of the sink and what comes after it, in a run on which everything relies that is
relied on.
-/
theorem Reliable.aftermath
    (created : (ofConfigAndItems slotBytes config (.ofList values)).result = .ok fresh)
    (run : Run (fresh.withThreads clock threads) history q) {failure : Turn α}
    (fails : q.step? failure.now failure.thread failure.move = some failure.progress)
    (move : failure.move = .fail) (rest : Run failure.progress.queue late last)
    (reliable : Reliable (history ++ failure :: late))
    : ∃ call phase,
        q.phase? failure.thread = some phase
        ∧ phase.atSink? = some call
        ∧ Aftermath q failure call late last := by
  have transition := Transition.of_step? fails
  have known := run.known_of_created created
  have failing := transition
  rw [move] at failing
  obtain ⟨call, phase, here, reports, free, state, fate⟩ := failing.of_fail
  have poisons := reliable.poisons failure
    (List.mem_append_right _ (List.mem_cons_self ..)) (congrArg Move.isFailure move)
  have ending := known.ending_of_failure transition (congrArg Move.isFailure move)
    (Bool.and_eq_true_iff.mp poisons).2
  rw [← state] at ending
  have later : Steady late :=
    fun turn member => reliable.steady turn
      (List.mem_append_right _ (List.mem_cons_of_mem _ member))
  exact ⟨call, phase, here, reports, known,
    run.nobody_lost created (run.sane_before created reliable.steady.left failing), transition,
    fate, ending, rest, (rest.quiet ending later (ending.orderly.upright_of_free free)).1⟩

/-- The log sink may fail in any reachable state and everything that comes after is as it
should be; witness: the queue counts as closed from the poisoned release on, and what is
known of the list then holds of every later state.
-/
theorem fail_stop_safe
    (created : (ofConfigAndItems slotBytes config (.ofList values)).result = .ok fresh)
    (run : Run (fresh.withThreads clock threads) history q) {now thread : Nat}
    {progress : Progress α} (fails : q.step? now thread .fail = some progress)
    (rest : Run progress.queue late last)
    (reliable : Reliable (history ++ ⟨now, thread, .fail, progress⟩ :: late))
    : ∃ call,
        FailStopped (fresh.withThreads clock threads) history q
          ⟨now, thread, .fail, progress⟩ call late last := by
  have before : Reliable history :=
    ⟨reliable.steady.left, fun turn member =>
      reliable.poisons turn (List.mem_append_left _ member)⟩
  have healthy := before.first_failure created run (.of_step? fails)
  obtain ⟨call, phase, here, reports, aftermath⟩ :=
    reliable.aftermath created run fails rfl rest
  have final := aftermath.final
  have whole : Run (fresh.withThreads clock threads)
      (history ++ ⟨now, thread, .fail, progress⟩ :: late) last := by
    rw [← List.singleton_append]
    exact run.append (aftermath.transition.run.append rest)
  -- The thread has been with the sink in its own work.
  rcases aftermath.before.atSink_cases here reports with
    ⟨met, tick, answer, rfl, _, _, served, reported⟩ | ⟨sleptOn, rfl, _⟩
  case inr => cases run.upright before.steady upright_withThreads _ _ _ here
  refine ⟨call, ?event, ?untouched, ?meets, ?marks, ?refuses, ?order, ?pops, ?awake, ?answers,
    ?told, aftermath.tells, ?lost, ?places⟩
  case event =>
    refine ⟨answer, here, ?_⟩
    exact (Fifo.reported_cases served reported).imp_right fun ⟨timed, _, cause⟩ =>
      ⟨timed, cause⟩
  case untouched =>
    obtain ⟨_, _, _, _, _, state, _⟩ := (Transition.of_step? fails).of_fail
    rw [state]
    exact run.untouched created here reported
  case meets =>
    rw [recover_eq]
    exact final.meets.closed
  case marks =>
    intro now other move progress free made upright takes
    exact final.orderly.marksClosed (.of_step? made) upright final.meets.closed free takes
  case refuses =>
    refine ⟨rest.stores_nothing aftermath.ending.orderly aftermath.ending.meets.closed,
      fun turn member answer answered => ?_⟩
    obtain ⟨before, here, made⟩ :=
      rest.known_before (Fifo.stable_ending _) aftermath.ending member
    exact (here.quiet made).2.2 answer answered
  case order =>
    have order := (rest.elements aftermath.ending.orderly).2
    rwa [rest.stores_nothing aftermath.ending.orderly aftermath.ending.meets.closed,
      List.map_nil, List.append_nil] at order
  case pops =>
    intro now other sleptOn preferred value rest asks free door pop elements
    exact final.orderly.pops free door pop elements preferred
  case awake =>
    intro done
    have closed := aftermath.closed done
    refine ⟨closed, fun side => ?_⟩
    have nobody := (whole.tracked created side).silent closed
    have few := last.parked_le_joined side
    omega
  case answers =>
    intro tick other move ended reply made answered
    exact aftermath.answers (.of_step? made)
      (whole.upright reliable.steady upright_withThreads) answered
  case told =>
    intro given first
    rcases aftermath.told with told | ⟨untold, _⟩
    · exact Option.some.inj (first.symm.trans told)
    · rw [untold] at first
      cases first
  case lost => exact aftermath.lost created run healthy rfl here reports
  case places =>
    intro other account value member offers
    obtain ⟨phase, found⟩ := (whole.booked created other).present (List.ne_nil_of_mem member)
    rcases ((whole.booked created other).kept found).cases member with fits | ended
    · rw [found]
      exact fits.hasPlace offers
    · exact ended.hasPlace _ offers

end

/-- A producer sleeps at a full queue, and another one has run out of time and reports it. -/
def blockedAndExpired : List (Nat × Nat × Move Nat) :=
  [(0, 1, .call (.waitPush 9 .infinite) false), (0, 1, .enter []), (0, 1, .leave),
    (1, 0, .call (.waitPush 8 (.after 0)) false), (1, 0, .enter [])]

/-- A consumer gets hold of the poisoned lock first, then the sleeper goes on, and only then
the thread that has failed cleans up.
-/
def slippedIn : List (Nat × Nat × Move Nat) :=
  [(2, 2, .call .tryPop false), (2, 2, .enter []), (2, 2, .leave),
    (3, 1, .enter []), (3, 1, .leave), (4, 0, .enter []), (4, 0, .leave)]

/-- The consumer gets the element, the sleeper its value back, and the failing call its
failure.
-/
theorem fail_stop_safe_slippedIn
    : let start := (ofRing (.ofCapacity 1) ((Ring.empty 1).pushed 7)).withThreads .ofWords 3
      let before := start.play blockedAndExpired
      ∃ progress call,
        before.2.step? 1 0 .fail = some progress
        ∧ let after := progress.queue.play slippedIn
          repliesTo after.1 2 = [.pop (.ok 7)]
          ∧ repliesTo after.1 1 = [.push (.error (.closed 9))]
          ∧ repliesTo after.1 0 = [.sinkFailed]
          ∧ FailStopped start before.1 before.2 ⟨1, 0, .fail, progress⟩ call after.1
              after.2 := by
  have created
      : (ofConfigAndItems 8 (.ofCapacity 1) (.ofList [7])).result
        = .ok (ofRing (.ofCapacity 1) ((Ring.empty 1).pushed 7)) := rfl
  have fails
      : (((ofRing (.ofCapacity 1) ((Ring.empty 1).pushed 7)).withThreads .ofWords 3).play
          blockedAndExpired).2.step? 1 0 .fail
        = some _ := rfl
  obtain ⟨call, stopped⟩ :=
    fail_stop_safe created (.of_play _ blockedAndExpired) fails (.of_play _ slippedIn)
      ⟨by decide, by decide⟩
  exact ⟨_, call, rfl, rfl, rfl, rfl, stopped⟩

end Queue

end Conduit
