import Conduit.Proofs.Queue.Reports

/-! The events of a queue are the history of its closed flag and of its expired waits.
Once a failing thread has left the lock behind, threads race for closing the queue; whoever
sees the poisoned lock first reports it, and nobody else has anything to report.
-/

namespace Conduit

variable {α : Type}

namespace Queue

-----------------------------------------------------------------------------------------
-- What a run reports
-----------------------------------------------------------------------------------------

/-- The events reported in the course of a run, in their order. -/
def emitted (history : List (Turn α)) : List Event :=
  history.flatMap fun turn => turn.progress.events

@[simp] theorem emitted_append (early late : List (Turn α))
    : emitted (early ++ late) = emitted early ++ emitted late :=
  List.flatMap_append

@[simp] theorem emitted_singleton (turn : Turn α) : emitted [turn] = turn.progress.events :=
  List.flatMap_singleton ..

/-- The queue at which a turn of a run has been made; by induction on the run, up to that
turn.
-/
theorem Run.split_at {start last : Queue α} {history : List (Turn α)}
    (run : Run start history last) {early late : List (Turn α)} {turn : Turn α}
    (split : history = early ++ turn :: late)
    : ∃ before,
        Run start early before
        ∧ before.step? turn.now turn.thread turn.move = some turn.progress
        ∧ Run turn.progress.queue late last := by
  induction run generalizing late with
  | start => simp at split
  | @step history met newest before made ih =>
    rcases List.eq_nil_or_concat late with rfl | ⟨rest, final, rfl⟩
    · obtain ⟨rfl, same⟩ := List.append_inj' split rfl
      obtain rfl := List.singleton_inj.mp same
      exact ⟨met, before, made, .start⟩
    · rw [List.concat_eq_append] at split ⊢
      rw [← List.cons_append, ← List.append_assoc] at split
      obtain ⟨earlier, same⟩ := List.append_inj' split rfl
      obtain rfl := List.singleton_inj.mp same
      obtain ⟨middle, first, turns, later⟩ := ih earlier
      exact ⟨middle, first, turns, .step later made⟩

section
variable {q last : Queue α} {late : List (Turn α)}

/-- A run reports one closing if it sets the flag, and none otherwise; by induction on its
steps.
-/
theorem Run.closings (run : Run q late last) (orderly : q.Orderly) (steady : Steady late)
    : q.state.closed.toNat + (emitted late).countP Event.isClosing
      = last.state.closed.toNat := by
  induction run with
  | start => rfl
  | @step history met turn before made ih =>
    have ih := ih steady.left
    have step := (before.elements orderly).1.closings (.of_step? made)
      (steady turn (List.mem_append_right _ (List.mem_singleton_self turn)))
    rw [emitted_append, emitted_singleton, List.countP_append]
    omega

/-- Of the waits that are given up in the course of a run, each one is reported; by induction
on the steps of the run.
-/
theorem Run.expiries (run : Run q late last) (known : q.Known fun _ => True)
    (upright : q.Upright) (steady : Steady late)
    : q.givesUp.toNat + (emitted late).countP Event.isExpiry
      = late.countP Turn.endsExpired + last.givesUp.toNat := by
  induction run with
  | start => simp [emitted]
  | @step history met turn before made ih =>
    have ih := ih steady.left
    have step := (before.known Fifo.stable_true known).expiries (.of_step? made)
      (before.upright steady.left upright)
    rw [emitted_append, emitted_singleton, List.countP_append, List.countP_append,
      List.countP_singleton]
    cases ends : turn.endsExpired <;> rw [ends] at step <;> simp at step ⊢ <;> omega

end

/-- A failure of the sink under a wait comes in the event of a wait whose time was up, at an
open queue, and it poisons the lock.
-/
theorem Known.failsInWait {M : Fifo α → Prop} {q : Queue α} (known : q.Known M)
    (upright : q.Upright) {failure : Turn α}
    (transition : q.Transition failure.now failure.thread failure.move failure.progress)
    (fails : failure.failsInWait = true)
    : failure.move = .fail
      ∧ (∃ call answer,
          q.phase? failure.thread = some (.inside call (.answered answer) true)
          ∧ answer.tellsTimedOut = true
          ∧ ∃ tick, expired call.deadline tick = true)
      ∧ failure.progress.queue.state.closed = false
      ∧ failure.progress.queue.poisoned = true := by
  obtain ⟨now, thread, move, progress⟩ := failure
  simp only [Turn.failsInWait, Bool.and_eq_true] at transition fails ⊢
  obtain ⟨failure, failing⟩ := fails
  cases transition with
  | fails here | failsAgain here =>
    have idle := phase?_setPhase_self here .idle
    cases (congrArg (Option.any Phase.isFailing) idle).symm.trans failing
  | @failsGuarded call phase here reports _ careful =>
    obtain ⟨answer, rfl, late, _⟩ := known.gaveUp_of_careful here reports upright
    rw [careful] at late
    obtain ⟨isOpen, timed, _⟩ := known.givesUp_cases here late
    exact ⟨rfl, ⟨call, answer, here, late, timed⟩, (fifo_closed_eq_false.mp isOpen).1, rfl⟩
  | _ => cases failure

section
variable {slotBytes threads : Nat} {clock : Clock} {config : Config} {values : List α}
  {fresh q last : Queue α}
  {history late : List (Turn α)}

/-- A poisoned lock is that of a closed queue, or the sink has failed under a wait; by
induction on the run.
-/
theorem Run.poisoned_by
    (created : (ofConfigAndItems slotBytes config (.ofList values)).result = .ok fresh)
    (run : Run (fresh.withThreads clock threads) history q) (poisoned : q.poisoned = true)
    : q.state.closed = true ∨ ∃ failure ∈ history, failure.failsInWait = true := by
  induction run with
  | start =>
    obtain ⟨ring, rfl, _⟩ := created_eq created
    cases poisoned
  | @step history met turn before made ih =>
    have orderly := before.orderly created
    have transition := Transition.of_step? made
    have kept
        : met.poisoned = true
          → turn.progress.queue.state.closed = true
            ∨ ∃ failure ∈ history ++ [turn], failure.failsInWait = true := by
      intro already
      rcases ih already with closed | ⟨failure, member, fails⟩
      · exact Or.inl (orderly.keepsClosed transition closed)
      · exact Or.inr ⟨failure, List.mem_append_left _ member, fails⟩
    obtain ⟨now, thread, move, progress⟩ := turn
    simp only at transition
    cases transition with
    | @fails call phase here reports _ careless =>
      rcases Phase.cases_of_atSink? reports with ⟨outcome, rfl⟩ | ⟨sleptOn, rfl⟩
      · obtain ⟨answer, rfl, _⟩ := orderly.answered_of_reporting here
        exact Or.inl (((orderly.fits here).2 rfl).2 careless)
      · exact kept (Bool.and_eq_true_iff.mp (orderly.fits here).2.1).1
    | @failsGuarded call phase here =>
      have failing := phase?_setPhase_self (q := { met with holder := none, poisoned := true })
        here (.failing call)
      refine Or.inr ⟨_, List.mem_append_right _ (List.mem_singleton_self _), ?_⟩
      simp [Turn.failsInWait, Move.isFailure, failing, Phase.isFailing]
    | _ => exact kept poisoned

/-- After a failure of the sink that has poisoned the lock, no call is lost but the one that it
has failed under.
-/
theorem Run.lost_alone
    (created : (ofConfigAndItems slotBytes config (.ofList values)).result = .ok fresh)
    (run : Run (fresh.withThreads clock threads) history q) {now thread other : Nat}
    {progress : Progress α} (fails : q.step? now thread .fail = some progress)
    (poisoned : progress.queue.poisoned = true) (rest : Run progress.queue late last)
    (early : Steady history) (steady : Steady late) {phase : Phase α}
    (found : last.phase? other = some phase) (lost : phase.isLost = true)
    : other = thread := by
  have known := run.known_of_created created
  have transition := Transition.of_step? fails
  have ending := known.ending_of_failure transition rfl poisoned
  have sane := run.sane_before created early transition
  obtain ⟨_, _, _, _, free, _⟩ := transition.of_fail
  have quiet := (rest.quiet ending steady (ending.orderly.upright_of_free free)).1
  obtain ⟨old, here, gone⟩ := rest.lost_before ending.orderly
    (fun turn member => Turn.poisons_of_healthy (quiet turn member)) found lost
  rcases known.orderly.lost_cases transition here gone with ⟨first, there, lost⟩ | ⟨same, _⟩
  · cases (run.nobody_lost created sane there).symm.trans lost
  · exact same

/-- How the events of a run go with what has happened to the queue. The closing is reported
once, at the latest when the lock is given back, by the call that has set the flag or by the
first to find the lock poisoned; the report of a call tells how many elements are still to
be handed out. The lock is reported after the sink has failed in the event of a wait whose
time was up, and before the thread of that wait has cleaned up. Every such event belongs to
one wait that ends with it.
-/
structure Logged (start : Queue α) (history : List (Turn α)) (q : Queue α) : Prop where
  once : (emitted history).countP Event.isClosing ≤ 1
  flag : (emitted history).countP Event.isClosing = 1 ↔ q.state.closed = true
  closes
    : ∀ {early turn late},
        history = early ++ turn :: late
        → ∃ before,
          Run start early before
          ∧ before.step? turn.now turn.thread turn.move = some turn.progress
          ∧ ((∃ label buffered, .closed label buffered ∈ turn.progress.events)
            ↔ before.Closes turn)
  buffered
    : ∀ {early turn late label buffered},
        history = early ++ turn :: late
        → .closed label buffered ∈ turn.progress.events
        → buffered = (takenBy late).length + q.state.ring.length
  fails
    : ∀ {early failure late},
        history = early ++ failure :: late
        → failure.failsInWait = true
        → ∃ before call answer,
          Run start early before
          ∧ before.phase? failure.thread = some (.inside call (.answered answer) true)
          ∧ answer.tellsTimedOut = true
          ∧ ∃ tick, expired call.deadline tick = true
  errors
    : ∀ {early turn late event},
        history = early ++ turn :: late
        → event ∈ turn.progress.events
        → event.level = .error
        → event = .lockPoisoned ∧ ∃ failure ∈ early, failure.failsInWait = true
  reported
    : ∀ {early failure late},
        history = early ++ failure :: late
        → failure.failsInWait = true
        → (∀ asks, q.phase? failure.thread ≠ some (.failing asks))
        → .lockPoisoned ∈ emitted late
  expiries
    : (emitted history).countP Event.isExpiry
      = history.countP Turn.endsExpired + q.givesUp.toNat
  settled : q.holder = none → q.givesUp = false

/-- What a call that closes a queue tells of its elements stays right: some of them are handed
out later on, and the others are still there.
-/
theorem Run.buffered_of_closed
    (created : (ofConfigAndItems slotBytes config (.ofList values)).result = .ok fresh)
    (run : Run (fresh.withThreads clock threads) history q) {turn : Turn α}
    (made : q.step? turn.now turn.thread turn.move = some turn.progress)
    (rest : Run turn.progress.queue late last) (closes : q.Closes turn)
    : q.state.ring.length = (takenBy late).length + last.state.ring.length := by
  have orderly := run.orderly created
  have transition := Transition.of_step? made
  have list := (orderly.reports_close transition closes).2
  have after := orderly.transition transition
  obtain ⟨final, order⟩ := rest.elements after
  rw [rest.stores_nothing after (congrArg Fifo.closed list), List.map_nil, List.append_nil]
    at order
  have same : turn.progress.queue.state.ring.toList = q.state.ring.toList :=
    congrArg Fifo.elements list
  have lengths := congrArg List.length (same.symm.trans order)
  rw [List.length_append, List.length_map] at lengths
  rwa [Ring.length_toList orderly.sound.valid, Ring.length_toList final.sound.valid] at lengths

/-- The poisoned lock is reported before the thread that has failed is through with it: by
that thread or by somebody who has come first.
-/
theorem Run.alarm_of_failure
    (created : (ofConfigAndItems slotBytes config (.ofList values)).result = .ok fresh)
    (run : Run (fresh.withThreads clock threads) history q) {failure : Turn α}
    (made : q.step? failure.now failure.thread failure.move = some failure.progress)
    (rest : Run failure.progress.queue late last) (early : Steady history)
    (steady : Steady late) (fails : failure.failsInWait = true)
    (done : ∀ asks, last.phase? failure.thread ≠ some (.failing asks))
    : .lockPoisoned ∈ emitted late := by
  have known := run.known_of_created created
  have transition := Transition.of_step? made
  obtain ⟨move, _, isOpen, broken⟩ :=
    known.failsInWait (run.upright early upright_withThreads) transition fails
  have after := known.orderly.transition transition
  have counts := fifo_closed_of_poisoned broken
  have closed : last.state.closed = true := by
    have still := rest.stable after Fifo.stable_closed counts
    cases flag : last.state.closed with
    | true => rfl
    | false =>
      have poisoned : last.poisoned = true := by simpa [fifo, flag] using still
      rcases (rest.elements after).1.excused poisoned with closed | ⟨other, asks, failing⟩
      · exact flag.symm.trans closed
      · rw [move] at made
        obtain rfl := run.lost_alone created made broken rest early steady failing rfl
        exact absurd failing (done asks)
  have closings := rest.closings after steady
  rw [isOpen, closed, Bool.toNat_false, Nat.zero_add, Bool.toNat_true] at closings
  obtain ⟨event, member, closing⟩ :=
    List.countP_pos_iff.mp (Nat.lt_of_lt_of_eq Nat.zero_lt_one closings.symm)
  obtain ⟨turn, later, reported⟩ := List.mem_flatMap.mp member
  obtain ⟨_, before, _, _, first, step, _⟩ := rest.split later
  have still := first.stable after Fifo.stable_closed counts
  rcases ((first.elements after).1.closing_cases (.of_step? step) reported closing).2 with
    ⟨_, rfl⟩ | ⟨⟨_, _, again⟩, _⟩
  · exact member
  · cases still.symm.trans again

/-- The events of every run go with what happens to the queue, if the sink does not fail in the
report of a poisoned lock; witness: the closings reported
are as many as the flag has been set, and the waits reported as many as have ended expired.
-/
theorem events_match
    (created : (ofConfigAndItems slotBytes config (.ofList values)).result = .ok fresh)
    (run : Run (fresh.withThreads clock threads) history q) (steady : Steady history)
    : Logged (fresh.withThreads clock threads) history q := by
  have known : (fresh.withThreads clock threads).Known fun _ => True :=
    Run.known_of_created created .start
  obtain ⟨ring, fresh_eq, _⟩ := created_eq created
  have closings := run.closings known.orderly steady
  have expiries := run.expiries known upright_withThreads steady
  have isOpen : (fresh.withThreads clock threads).state.closed = false := by
    rw [fresh_eq]
    rfl
  have nobody : (fresh.withThreads clock threads).givesUp = false := by
    apply givesUp_of_free
    rw [fresh_eq]
    rfl
  rw [isOpen, Bool.toNat_false, Nat.zero_add] at closings
  rw [nobody, Bool.toNat_false, Nat.zero_add] at expiries
  refine ⟨?once, ?flag, ?closes, ?buffered, ?fails, ?errors, ?reported, expiries,
    givesUp_of_free⟩
  case once =>
    rw [closings]
    exact Bool.toNat_le _
  case flag =>
    rw [closings]
    exact Bool.toNat_eq_one
  case closes =>
    intro early turn late split
    obtain ⟨before, first, made, _⟩ := run.split_at split
    have orderly := first.orderly created
    have transition := Transition.of_step? made
    refine ⟨before, first, made, ?_, fun closes => ?_⟩
    · rintro ⟨label, buffered, member⟩
      rcases (orderly.closing_cases transition member rfl).2 with ⟨_, alarm⟩ | ⟨closes, _⟩
      · cases alarm
      · exact closes
    · rw [(orderly.reports_close transition closes).1]
      exact ⟨_, _, List.mem_singleton_self _⟩
  case buffered =>
    intro early turn late label buffered split member
    obtain ⟨before, first, made, rest⟩ := run.split_at split
    rcases ((first.orderly created).closing_cases (.of_step? made) member rfl).2 with
      ⟨_, alarm⟩ | ⟨closes, closed⟩
    · cases alarm
    · obtain ⟨_, rfl⟩ := Event.closed.inj closed
      exact first.buffered_of_closed created made rest closes
  case fails =>
    intro early failure late split fails
    obtain ⟨before, first, made, _⟩ := run.split_at split
    subst split
    obtain ⟨_, ⟨call, answer, found⟩, _⟩ :=
      (first.known_of_created created).failsInWait
        (first.upright steady.left upright_withThreads) (.of_step? made) fails
    exact ⟨before, call, answer, first, found⟩
  case errors =>
    intro early turn late event split member error
    obtain ⟨before, first, made, _⟩ := run.split_at split
    have closing : event.isClosing = true := by
      cases event <;> first | rfl | cases error
    obtain ⟨isOpen, ⟨poisoned, alarm⟩ | ⟨_, closed⟩⟩ :=
      (first.orderly created).closing_cases (.of_step? made) member closing
    · refine ⟨alarm, (first.poisoned_by created poisoned).resolve_left ?_⟩
      rw [isOpen]
      exact Bool.false_ne_true
    · subst closed
      cases error
  case reported =>
    intro early failure late split fails done
    obtain ⟨before, first, made, rest⟩ := run.split_at split
    subst split
    rw [← List.singleton_append] at steady
    exact first.alarm_of_failure created made rest steady.left steady.right.right fails done

end

/-- Two pushes give up at a full queue and the sink fails under the second one; then another
thread calls to close the queue, and only after that the failing thread cleans up.
-/
def closedAfterFailure : List (Nat × Nat × Move Nat) :=
  [(0, 0, .call (.waitPush 8 (.after 0)) false), (0, 0, .enter []), (0, 0, .leave),
    (1, 1, .call (.waitPush 9 (.after 0)) false), (1, 1, .enter []), (1, 1, .fail),
    (2, 2, .call .close false), (2, 2, .enter []), (2, 2, .leave),
    (3, 1, .enter []), (3, 1, .leave)]

/-- The call to close has reported the poisoned lock and nothing else, and the failing thread
has found nothing left to report.
-/
theorem events_match_poisoned
    : let start := (ofRing (.ofCapacity 1) ((Ring.empty 1).pushed 7)).withThreads .ofWords 3
      let played := start.play closedAfterFailure
      played.2.holder = none
      ∧ played.2.state.closed = true
      ∧ emitted played.1 = [.pushExpired none, .pushExpired none, .lockPoisoned]
      ∧ played.1.countP Turn.endsExpired = 2
      ∧ Logged start played.1 played.2 := by
  have created
      : (ofConfigAndItems 8 (.ofCapacity 1) (.ofList [7])).result
        = .ok (ofRing (.ofCapacity 1) ((Ring.empty 1).pushed 7)) := rfl
  exact ⟨rfl, rfl, rfl, rfl, events_match created (.of_play _ closedAfterFailure) (by decide)⟩

end Queue

end Conduit
