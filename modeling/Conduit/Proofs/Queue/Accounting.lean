import Conduit.Proofs.Queue.Runs

/-! The counts of sleepers and of pending wakeups against the threads they stand for.
A thread is in the counts from the moment it joins the sleepers until it settles, wherever its
wakeup comes from and whichever thread takes the wakeup that was meant for it.
-/

namespace Conduit

variable {α : Type}

/-- Whether the thread has joined the sleepers of a side and not been woken: it sleeps, or it
holds the lock and is about to.
-/
def Phase.hasJoined (side : Side) : Phase α → Bool
  | .inside _ (.waits slept _) _ | .parked slept _ => slept = side
  | _ => false

theorem Phase.hasJoined_of_outside {phase : Phase α} (outside : phase.isInside = false)
    (side : Side) : phase.hasJoined side = phase.isParked side := by
  cases phase with
  | inside => cases outside
  | _ => rfl

/-- The entries that a thread has in the bookkeeping of a side: one from the moment it joins
the sleepers until it settles.
-/
def Phase.entryCount (side : Side) (phase : Phase α) : Nat :=
  (phase.hasJoined side).toNat + (phase.isWoken side).toNat

/-- The sides on which a thread that comes from a sleep, or not, has an entry. -/
theorem Call.entryCount_atDoor (call : Call α) (sleptOn : Option Side) (side : Side)
    : (call.atDoor sleptOn).entryCount side = (decide (sleptOn = some side)).toNat := by
  rcases sleptOn with _ | slept
  · rfl
  · cases slept <;> cases side <;> rfl

/-- Whether the thread has come from a sleep on a side and is going to fail before it settles.
-/
def Phase.turnsFrom (side : Side) : Phase α → Bool
  | .stumbling sleptOn _ => sleptOn = some side
  | _ => false

/-- Whether the thread of a turn leaves an entry behind on a side. -/
def Turn.deserts (turn : Turn α) (side : Side) : Bool :=
  match turn.move with
  | .stumble => (turn.progress.queue.phase? turn.thread).any (Phase.turnsFrom side)
  | _ => false

/-- A caller that finds a pending wakeup or an entry takes exactly one of them out. -/
theorem Waiters.settle_exact {w : Waiters} (entry : w.notified = 0 → 1 ≤ w.waiting)
    : w.settle.waiting + w.settle.notified + 1 = w.waiting + w.notified
      ∧ (w.settle.waiting = w.waiting ∨ w.notified = 0 ∧ w.settle.waiting + 1 = w.waiting) := by
  unfold Waiters.settle
  split
  · exact ⟨by simp only; omega, Or.inl rfl⟩
  · exact ⟨by simp only; omega, Or.inr ⟨by omega, by simp only; omega⟩⟩

namespace Queue

/-- How many threads sleep on a side. -/
def parked (q : Queue α) (side : Side) : Nat := q.phases.countP (Phase.isParked side)

/-- How many threads have stopped sleeping on a side and not got the lock back. -/
def woken (q : Queue α) (side : Side) : Nat := q.phases.countP (Phase.isWoken side)

/-- How many threads have joined the sleepers of a side and not been woken. -/
def joined (q : Queue α) (side : Side) : Nat := q.phases.countP (Phase.hasJoined side)

-----------------------------------------------------------------------------------------
-- The threads of a side before and after a step
-----------------------------------------------------------------------------------------

/-- While the lock is free, whoever has joined the sleepers sleeps. -/
theorem Orderly.joined_eq {q : Queue α} (orderly : q.Orderly) (free : q.holder = none)
    (side : Side) : q.joined side = q.parked side := by
  refine List.countP_congr fun phase member => ?_
  obtain ⟨thread, within, rfl⟩ := List.getElem_of_mem member
  rw [Phase.hasJoined_of_outside (orderly.outside free (List.getElem?_eq_getElem within))]

/-- A thread that takes the lock leaves asleep whom its wakeups leave asleep, and may join the
sleepers itself. Whoever else stops sleeping has been woken.
-/
theorem Orderly.counts_enterWith {q : Queue α} (orderly : q.Orderly) (free : q.holder = none)
    {thread : Nat} {old : Phase α} (found : q.phase? thread = some old)
    (awake : ∀ side, old.isParked side = false) (call : Call α) (preferred : List Nat)
    (done : Section α (Outcome α)) (side : Side)
    : (q.enterWith thread call preferred done).queue.joined side
        = done.wakes.foldl (leftAsleep side) (q.joined side) + (done.result.isWait side).toNat
      ∧ (q.enterWith thread call preferred done).queue.joined side
          + (q.enterWith thread call preferred done).queue.woken side
          + (old.isWoken side).toNat
        = q.joined side + q.woken side + (done.result.isWait side).toNat := by
  have roused := roused_foldl_deliver preferred done.wakes q.phases
  obtain ⟨left, total⟩ := countP_foldl_deliver preferred done.wakes q.phases side
  -- The thread does not sleep, so that none of its own wakeups moves it.
  have still
      : (done.wakes.foldl (deliver preferred) q.phases)[thread]? = some old := by
    rcases roused thread with same | ⟨other, woken, parked, _⟩
    · exact same.trans found
    · obtain rfl := Option.some.inj (found.symm.trans parked)
      exact absurd (awake other) (by simp [Phase.isParked])
  -- Nobody is inside, before the wakeups or after them.
  have sleepers
      : (done.wakes.foldl (deliver preferred) q.phases).countP (Phase.hasJoined side)
        = (done.wakes.foldl (deliver preferred) q.phases).countP (Phase.isParked side) := by
    refine List.countP_congr fun phase member => ?_
    obtain ⟨other, within, rfl⟩ := List.getElem_of_mem member
    have here := List.getElem?_eq_getElem within
    rcases roused other with same | ⟨slept, call, _, delivered⟩
    · rw [Phase.hasJoined_of_outside (orderly.outside free (same.symm.trans here))]
    · rw [← Option.some.inj (delivered.symm.trans here)]
      rfl
  have joins := countP_set_toNat still (entered call done) (Phase.hasJoined side)
  have wakes := countP_set_toNat still (entered call done) (Phase.isWoken side)
  have oldJoins : old.hasJoined side = false :=
    (Phase.hasJoined_of_outside (orderly.outside free found) side).trans (awake side)
  have newJoins : (entered call done).hasJoined side = done.result.isWait side := by
    unfold entered
    cases done.result <;> rfl
  have newWakes : (entered call done).isWoken side = false := rfl
  have before := orderly.joined_eq free side
  rw [sleepers, oldJoins, newJoins] at joins
  rw [newWakes] at wakes
  simp only [Bool.toNat_false, Nat.add_zero] at joins wakes
  change (q.enterWith thread call preferred done).queue.joined side = _ at joins
  change (q.enterWith thread call preferred done).queue.woken side + _ = _ at wakes
  change q.joined side = q.phases.countP (Phase.isParked side) at before
  change _ = _ + q.woken side at total
  rw [joins, left, before]
  refine ⟨rfl, ?_⟩
  omega

/-- A step as the counts see it, by the sides on which it leaves an entry behind. Either it
leaves the counts alone, and its thread at most stops sleeping, goes to sleep as announced or
turns away from an entry, or it is a stretch of work under the lock of a thread that does not
sleep.
-/
inductive Shift (q : Queue α) (thread : Nat) (left : Side → Bool) : Queue α → Prop
  | moves {old new after} (found : q.phase? thread = some old)
    (state : after.state = q.state) (config : after.config = q.config)
    (phases : after.phases = q.phases.set thread new)
    (same : ∀ side, new.entryCount side + (left side).toNat = old.entryCount side)
    (fewer : ∀ side, (new.hasJoined side).toNat ≤ (old.hasJoined side).toNat)
    (healthy : after.poisoned = false → q.poisoned = false ∧ ∀ side, left side = false)
    : Shift q thread left after
  | works {old sleptOn call preferred done} (free : q.holder = none)
    (found : q.phase? thread = some old) (awake : ∀ side, old.isParked side = false)
    (door : ∀ side, old.isWoken side = decide (sleptOn = some side))
    (worked : q.Worked sleptOn done) (settled : ∀ side, left side = false)
    : Shift q thread left (q.enterWith thread call preferred done).queue

/-- While nobody has failed, no step leaves an entry behind. -/
theorem Shift.healthy {q after : Queue α} {thread : Nat} {left : Side → Bool}
    (shift : q.Shift thread left after) (healthy : after.poisoned = false)
    : q.poisoned = false ∧ ∀ side, left side = false := by
  cases shift with
  | moves _ _ _ _ _ _ kept => exact kept healthy
  | works _ _ _ _ _ settled => exact ⟨healthy, settled⟩

/-- A thread with the sink has no entry, unless it has stumbled before it could settle. -/
theorem Orderly.entryCount_of_atSink? {q : Queue α} (orderly : q.Orderly) {thread : Nat}
    {phase : Phase α} {call : Call α} (here : q.phase? thread = some phase)
    (reports : phase.atSink? = some call) (side : Side)
    : phase.hasJoined side = false ∧ phase.entryCount side = 0 := by
  rcases Phase.cases_of_atSink? reports with ⟨outcome, rfl⟩ | ⟨sleptOn, rfl⟩
  · obtain ⟨answer, rfl, _⟩ := orderly.answered_of_reporting here
    exact ⟨rfl, rfl⟩
  · exact ⟨rfl, rfl⟩

/-- Whoever stumbles on its way back from a sleep leaves an entry behind. -/
theorem deserts_of_stumbles {q : Queue α} (now : Nat) {thread : Nat} {call : Call α}
    {sleptOn : Option Side} (door : q.phase? thread = some (call.atDoor sleptOn)) (side : Side)
    : Turn.deserts ⟨now, thread, .stumble, q.stumbleWith thread sleptOn call⟩ side
      = decide (sleptOn = some side) := by
  have there
      : (q.stumbleWith thread sleptOn call).queue.phase? thread
        = some (.stumbling sleptOn call) :=
    phase?_setPhase_self door _
  simp only [Turn.deserts, there, Option.any_some, Phase.turnsFrom]

/-- Every step is a shift, by cases on what the thread does. -/
theorem Orderly.shift {q : Queue α} (orderly : q.Orderly) {now thread : Nat} {move : Move α}
    {progress : Progress α} (transition : q.Transition now thread move progress)
    : q.Shift thread (Turn.deserts ⟨now, thread, move, progress⟩) progress.queue := by
  have stays
      : (∀ side, Turn.deserts ⟨now, thread, move, progress⟩ side = false)
        → q.poisoned = false
        → q.poisoned = false
          ∧ ∀ side, Turn.deserts ⟨now, thread, move, progress⟩ side = false :=
    fun none healthy => ⟨healthy, none⟩
  cases transition with
  | begins idle =>
    exact .moves idle rfl rfl rfl (fun _ => rfl) (fun _ => Nat.le_refl _)
      (stays fun _ => rfl)
  | inspects arrived asks =>
    exact .moves arrived rfl rfl rfl (fun _ => rfl) (fun _ => Nat.le_refl _)
      (stays fun _ => rfl)
  | refuses arrived held busy =>
    exact .moves arrived rfl rfl rfl (fun _ => rfl) (fun _ => Nat.le_refl _)
      (stays fun _ => rfl)
  | @enters preferred call sleptOn door free locks =>
    have worked := (worked_of_work orderly.sound now call sleptOn (orderly.came door)).1
    refine .works free door ?_ ?_ worked fun _ => rfl
    · intro side
      cases sleptOn <;> rfl
    · intro side
      rcases sleptOn with _ | slept
      · rfl
      · cases slept <;> cases side <;> rfl
  | cleansUp failing free =>
    have worked := (worked_of_failureWork orderly.sound).1
    exact .works free failing (fun _ => rfl) (fun _ => rfl) worked fun _ => rfl
  | @stumbles call sleptOn door free locks alarmed =>
    refine .moves door rfl rfl rfl (fun side => ?_) (fun _ => Nat.zero_le _) fun healthy => ?_
    · rw [deserts_of_stumbles now door, call.entryCount_atDoor]
      exact Nat.zero_add _
    · cases (Bool.and_eq_true_iff.mp alarmed).1.symm.trans healthy
  | ends inside =>
    exact .moves inside rfl rfl rfl (fun _ => rfl) (fun _ => Nat.le_refl _)
      (stays fun _ => rfl)
  | sleeps inside =>
    exact .moves inside rfl rfl rfl (fun _ => rfl) (fun _ => Nat.le_refl _)
      (stays fun _ => rfl)
  | fails here reports | failsGuarded here reports =>
    have empty := orderly.entryCount_of_atSink? here reports
    exact .moves here rfl rfl rfl (fun side => (empty side).2.symm) (fun _ => Nat.zero_le _)
      fun healthy => by cases healthy
  | failsAgain here reports unwinding =>
    have empty := orderly.entryCount_of_atSink? here reports
    exact .moves here rfl rfl rfl (fun side => (empty side).2.symm) (fun _ => Nat.zero_le _)
      (stays fun _ => rfl)
  | stirs parked =>
    refine .moves parked rfl rfl rfl (fun side => ?_) (fun _ => Nat.zero_le _)
      (stays fun _ => rfl)
    exact Nat.add_comm 0 _

/-- A thread that moves outside the lock is the only one whose part in the counts changes. -/
theorem counts_set {q after : Queue α} {thread : Nat} {old new : Phase α}
    (found : q.phase? thread = some old) (phases : after.phases = q.phases.set thread new)
    (side : Side)
    : after.joined side + (old.hasJoined side).toNat
        = q.joined side + (new.hasJoined side).toNat
      ∧ after.woken side + (old.isWoken side).toNat
        = q.woken side + (new.isWoken side).toNat := by
  unfold joined woken
  rw [phases]
  exact ⟨countP_set_toNat found new _, countP_set_toNat found new _⟩

-----------------------------------------------------------------------------------------
-- The invariant
-----------------------------------------------------------------------------------------

/-- The counts of a side stand for the threads that have joined its sleepers and not settled,
and for no others while nobody has failed, nobody sleeps uncounted, and nobody sleeps at a
closed queue.
-/
structure Tracked (q : Queue α) (side : Side) : Prop where
  total
    : q.poisoned = false
      → (q.state.waiters side).waiting + (q.state.waiters side).notified
        = q.joined side + q.woken side
  covered
    : q.joined side + q.woken side
      ≤ (q.state.waiters side).waiting + (q.state.waiters side).notified
  enough : q.joined side ≤ (q.state.waiters side).waiting
  silent : q.state.closed = true → q.joined side = 0

/-- A thread that takes its own entry out finds one. -/
theorem Tracked.settled {q : Queue α} {side : Side} (tracked : q.Tracked side)
    {sleptOn : Option Side} {old : Phase α} {thread : Nat}
    (found : q.phase? thread = some old)
    (door : old.isWoken side = decide (sleptOn = some side))
    : (q.settled sleptOn side).waiting + (q.settled sleptOn side).notified
          + (old.isWoken side).toNat
        = (q.state.waiters side).waiting + (q.state.waiters side).notified
      ∧ q.joined side ≤ (q.settled sleptOn side).waiting := by
  have covered := tracked.covered
  have enough := tracked.enough
  rw [Queue.settled, door]
  by_cases slept : sleptOn = some side
  · have counted : old.isWoken side = true := door.trans (decide_eq_true slept)
    have present : 0 < q.woken side := countP_pos_of_getElem? found counted
    have exact := Waiters.settle_exact (w := q.state.waiters side) (by omega)
    rw [if_pos slept, decide_eq_true slept, Bool.toNat_true]
    omega
  · rw [if_neg slept, decide_eq_false slept, Bool.toNat_false]
    exact ⟨rfl, enough⟩

/-- Every step keeps the counts right. A thread that takes the lock settles its own entry,
chooses sleepers and wakes as many, and may join the sleepers itself.
-/
theorem Tracked.shift {q after : Queue α} {side : Side} (tracked : q.Tracked side)
    (orderly : q.Orderly) {thread : Nat} {left : Side → Bool}
    (shift : q.Shift thread left after)
    : after.Tracked side := by
  cases shift with
  | @moves old new after found state config phases same fewer healthy =>
    obtain ⟨total, covered, enough, silent⟩ := tracked
    obtain ⟨joins, wakes⟩ := counts_set found phases side
    have same := same side
    have fewer := fewer side
    unfold Phase.entryCount at same
    refine ⟨?_, by rw [state]; omega, by rw [state]; omega, ?_⟩
    · rw [state]
      intro unpoisoned
      obtain ⟨before, settled⟩ := healthy unpoisoned
      have total := total before
      rw [settled side, Bool.toNat_false] at same
      omega
    · rw [state]
      intro closed
      have := silent closed
      omega
  | @works old sleptOn call preferred done free found awake door worked settled =>
    obtain ⟨taken, enough⟩ := tracked.settled found (door side)
    obtain ⟨left, moved⟩ := orderly.counts_enterWith free found awake call preferred done side
    rw [worked.asleep side _ tracked.silent] at left
    have waiters
        : (q.enterWith thread call preferred done).queue.state.waiters side
          = (q.settled sleptOn side).after side done.result :=
      worked.waiters side
    have covered := tracked.covered
    refine ⟨?_, ?_, ?_, ?_⟩
    · intro healthy
      have total := tracked.total healthy
      rw [waiters, Waiters.after_eq]
      simp only
      omega
    · rw [waiters, Waiters.after_eq]
      simp only
      omega
    · rw [waiters, Waiters.after_eq]
      simp only
      split at left <;> omega
    · intro closed
      have closed : done.state.closed = true := closed
      rw [if_pos closed] at left
      cases wait : done.result.isWait side with
      | true => cases closed.symm.trans (worked.open_of_wait wait)
      | false => simpa [wait] using left

section
variable {slotBytes threads : Nat} {clock : Clock} {config : Config} {values : List α}
  {fresh q : Queue α} {history : List (Turn α)}

theorem nobody_joined (q : Queue α) (clock : Clock) (threads : Nat) (side : Side)
    : (q.withThreads clock threads).joined side = 0
      ∧ (q.withThreads clock threads).woken side = 0 := by
  refine ⟨List.countP_eq_zero.mpr ?_, List.countP_eq_zero.mpr ?_⟩
  · intro phase member
    rw [List.eq_of_mem_replicate member]
    exact Bool.false_ne_true
  · intro phase member
    rw [List.eq_of_mem_replicate member]
    exact Bool.false_ne_true

theorem Tracked.of_created
    (created : (ofConfigAndItems slotBytes config (.ofList values)).result = .ok fresh)
    (side : Side)
    : (fresh.withThreads clock threads).Tracked side := by
  obtain ⟨joined, woken⟩ := nobody_joined fresh clock threads side
  obtain ⟨ring, rfl, _⟩ := created_eq created
  refine ⟨fun _ => ?_, ?_, ?_, fun _ => joined⟩
  · rw [joined, woken]
    cases side <;> rfl
  · rw [joined, woken]
    exact Nat.zero_le _
  · rw [joined]
    exact Nat.zero_le _

/-- In every reachable state the counts stand for threads, by induction on the run. -/
theorem Run.tracked
    (created : (ofConfigAndItems slotBytes config (.ofList values)).result = .ok fresh)
    (run : Run (fresh.withThreads clock threads) history q) (side : Side)
    : q.Tracked side := by
  refine run.invariant created (Tracked · side) (.of_created created side) ?_
  intro q now thread move progress orderly tracked transition
  exact tracked.shift orderly (orderly.shift transition)

end

end Queue

end Conduit
