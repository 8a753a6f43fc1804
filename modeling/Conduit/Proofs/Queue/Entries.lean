import Conduit.Proofs.Queue.Accounting
import Conduit.Proofs.Queue.Failures

/-! What each thread adds to the bookkeeping of the sleepers and takes out of it.
An entry is counted as waiting first and as notified once its thread has been chosen to wake
up, so that only the thread itself changes how many there are: it adds one when it joins the
sleepers and takes one out when it settles.
-/

namespace Conduit

variable {α : Type}

namespace Queue

/-- How many entries there are in the bookkeeping of a side. -/
def entryCount (q : Queue α) (side : Side) : Nat :=
  (q.state.waiters side).waiting + (q.state.waiters side).notified

/-- What the thread of a turn has added to the entries of a side, less what it has taken
out.
-/
def entryChange (side : Side) (met : Queue α) (turn : Turn α) : Int :=
  turn.progress.queue.entryCount side - met.entryCount side

/-- What a thread has added to the entries of a side in the course of a run from `met`, less
what it has taken out.
-/
def entryBalance (thread : Nat) (side : Side) (met : Queue α) : List (Turn α) → Int
  | [] => 0
  | turn :: later =>
    (if turn.thread = thread then entryChange side met turn else 0)
    + entryBalance thread side turn.progress.queue later

theorem Run.entryBalance_append {start last : Queue α} {early : List (Turn α)}
    (run : Run start early last) (thread : Nat) (side : Side) (late : List (Turn α))
    : entryBalance thread side start (early ++ late)
      = entryBalance thread side start early + entryBalance thread side last late := by
  induction run generalizing late with
  | start => exact (Int.zero_add _).symm
  | @step history met turn before made ih =>
    rw [List.append_assoc, List.singleton_append, ih, ih [turn]]
    simp [entryBalance, Int.add_assoc]

/-- How often a thread has turned away from an entry of a side. -/
def desertions (thread : Nat) (side : Side) (history : List (Turn α)) : Nat :=
  history.countP fun turn => turn.thread == thread && turn.deserts side

theorem desertions_step (thread : Nat) (side : Side) (history : List (Turn α))
    (turn : Turn α)
    : desertions thread side (history ++ [turn])
      = desertions thread side history
        + if turn.thread = thread then (turn.deserts side).toNat else 0 := by
  unfold desertions
  rw [List.countP_append, List.countP_singleton]
  by_cases own : turn.thread = thread <;> cases turn.deserts side <;> simp [own]

/-- Whoever does not stumble leaves no entry behind. -/
theorem desertions_of_upright {history : List (Turn α)} {thread : Nat}
    (upright : ¬Stumbled history thread) (side : Side)
    : desertions thread side history = 0 := by
  refine List.countP_eq_zero.mpr fun turn member deserts => ?_
  obtain ⟨own, deserts⟩ := Bool.and_eq_true_iff.mp deserts
  refine upright ⟨turn, member, beq_iff_eq.mp own, ?_⟩
  cases move : turn.move with
  | stumble => rfl
  | _ => simp [Turn.deserts, move] at deserts

/-- A step changes the entries of a side by as much as the part of its thread in them, but for
the entry that the thread leaves behind.
-/
theorem Tracked.entryCount_shift {q after : Queue α} {side : Side} (tracked : q.Tracked side)
    (orderly : q.Orderly) {thread : Nat} {left : Side → Bool}
    (shift : q.Shift thread left after) {old new : Phase α}
    (found : q.phase? thread = some old) (moved : after.phase? thread = some new)
    : after.entryCount side + old.entryCount side
      = q.entryCount side + new.entryCount side + (left side).toNat := by
  cases shift with
  | @moves _ goesTo _ here state config phases same fewer healthy =>
    obtain rfl := Option.some.inj (found.symm.trans here)
    have there : after.phase? thread = some goesTo := by
      rw [phase?, phases]
      exact phase?_setPhase_self here goesTo
    obtain rfl := Option.some.inj (moved.symm.trans there)
    rw [entryCount, entryCount, state, ← same side]
    omega
  | @works phase sleptOn call preferred done free here awake door worked settled =>
    obtain rfl := Option.some.inj (found.symm.trans here)
    obtain rfl := Option.some.inj (moved.symm.trans (phase?_enterWith_self here))
    obtain ⟨taken, _⟩ := tracked.settled found (door side)
    have outside : old.hasJoined side = false :=
      (Phase.hasJoined_of_outside (orderly.outside free found) side).trans (awake side)
    have joins : (entered call done).entryCount side = (done.result.isWait side).toNat := by
      unfold entered
      cases done.result <;> rfl
    have waiters
        : (q.enterWith thread call preferred done).queue.state.waiters side
          = (q.settled sleptOn side).after side done.result :=
      worked.waiters side
    rw [joins, settled side, entryCount, waiters, Waiters.after_eq, Phase.entryCount, outside,
      entryCount]
    simp only [Bool.toNat_false]
    omega

/-- Whoever is woken keeps its entry. -/
theorem Transition.entryCount_other {q : Queue α} {now thread other : Nat} {move : Move α}
    {progress : Progress α} (transition : q.Transition now thread move progress)
    (different : other ≠ thread) {old new : Phase α} (found : q.phase? other = some old)
    (left : progress.queue.phase? other = some new) (side : Side)
    : new.entryCount side = old.entryCount side := by
  rcases transition.others different with same | ⟨slept, call, parked, woken⟩
  · rw [Option.some.inj (left.symm.trans (same.trans found))]
  · obtain rfl := Option.some.inj (found.symm.trans parked)
    obtain rfl := Option.some.inj (left.symm.trans woken)
    exact Nat.add_comm _ _

theorem Run.tracked_after {start last : Queue α} {history : List (Turn α)}
    (run : Run start history last) {side : Side} (orderly : start.Orderly)
    (tracked : start.Tracked side)
    : last.Orderly ∧ last.Tracked side := by
  induction run with
  | start => exact ⟨orderly, tracked⟩
  | step before made ih =>
    have transition := Transition.of_step? made
    exact ⟨ih.1.transition transition, ih.2.shift ih.1 (ih.1.shift transition)⟩

/-- A thread has taken out what it has added, but for the entry that it still has and those
that it has left behind, by induction on the run.
-/
theorem Run.entryBalance_eq {start last : Queue α} {history : List (Turn α)}
    (run : Run start history last) {side : Side} (orderly : start.Orderly)
    (tracked : start.Tracked side) {thread : Nat} {old new : Phase α}
    (found : start.phase? thread = some old) (left : last.phase? thread = some new)
    : entryBalance thread side start history
      = (new.entryCount side : Int) - old.entryCount side
        + desertions thread side history := by
  induction run generalizing new with
  | start =>
    rw [Option.some.inj (found.symm.trans left), Int.sub_self]
    rfl
  | @step history met turn before made ih =>
    obtain ⟨phase, here⟩ := before.present found
    obtain ⟨orderlyMet, trackedMet⟩ := before.tracked_after orderly tracked
    have transition := Transition.of_step? made
    rw [before.entryBalance_append, ih here, desertions_step, entryBalance, entryBalance]
    split
    · rename_i own
      subst own
      have shifted
          : turn.progress.queue.entryCount side + phase.entryCount side
            = met.entryCount side + new.entryCount side + (turn.deserts side).toNat :=
        trackedMet.entryCount_shift orderlyMet (orderlyMet.shift transition) here left
      rw [entryChange]
      push_cast
      omega
    · rename_i other
      rw [transition.entryCount_other (Ne.symm other) here left]
      push_cast
      omega

end Queue

end Conduit
