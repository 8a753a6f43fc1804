import Conduit.Proofs.Queue.Events
import Conduit.Proofs.Queue.Recast

/-! What closes a queue, and what makes no difference to it.
Only a call to close it does, or a failure that begins under its lock. That a thread was
already failing when it called is noted in the call and read when the sink fails, and nowhere
else: every run goes the same way with another note.
-/

namespace Conduit

variable {α : Type}

namespace Queue

-----------------------------------------------------------------------------------------
-- The steps that close a queue
-----------------------------------------------------------------------------------------

/-- The step in which the sink fails under a thread that holds the lock and was not failing
when its call began, be it in the report of its own work or of a poisoned lock.
-/
def Fails (q : Queue α) (turn : Turn α) : Prop :=
  turn.move = .fail
  ∧ q.holder = some turn.thread
  ∧ ∃ phase call,
      q.phase? turn.thread = some phase
      ∧ phase.atSink? = some call
      ∧ call.alreadyFailing = false

/-- A step leaves the poison of the lock as it is, or the sink fails in it. -/
theorem Orderly.poison_cases {q : Queue α} (orderly : q.Orderly) {turn : Turn α}
    (transition : q.Transition turn.now turn.thread turn.move turn.progress)
    : turn.progress.queue.poisoned = q.poisoned ∨ q.Fails turn := by
  obtain ⟨now, thread, move, progress⟩ := turn
  simp only at transition ⊢
  cases transition with
  | fails here reports healthy | failsGuarded here reports healthy =>
    have holds := (orderly.fits here).holder (Phase.isInside_of_atSink? reports)
    exact Or.inr ⟨rfl, holds, _, _, here, reports, healthy⟩
  | _ => exact Or.inl rfl

/-- Nobody stumbles over a healthy lock. -/
theorem Transition.steady {q : Queue α} {now thread : Nat} {move : Move α}
    {progress : Progress α} (transition : q.Transition now thread move progress)
    (healthy : q.poisoned = false)
    : move.isStumble = false := by
  cases transition with
  | stumbles _ _ _ _ alarmed => simp [Queue.alarmed, healthy] at alarmed
  | _ => rfl

/-- An open queue stays open in a step, unless it is closed on request or the sink fails. -/
theorem Orderly.cause {q : Queue α} (orderly : q.Orderly) {turn : Turn α}
    (transition : q.Transition turn.now turn.thread turn.move turn.progress)
    (isOpen : q.fifo.closed = false) (closed : turn.progress.queue.fifo.closed = true)
    : q.Closes turn ∨ q.Fails turn := by
  obtain ⟨wasOpen, healthy⟩ := fifo_closed_eq_false.mp isOpen
  rcases orderly.poison_cases transition with kept | fails
  · have shut : turn.progress.queue.state.closed = true := by
      simpa [fifo, kept, healthy] using closed
    have reported := orderly.closings transition (transition.steady healthy)
    rw [wasOpen, shut, Bool.toNat_false, Nat.zero_add, Bool.toNat_true] at reported
    obtain ⟨event, member, closing⟩ :=
      List.countP_pos_iff.mp (Nat.lt_of_lt_of_eq Nat.zero_lt_one reported.symm)
    rcases (orderly.closing_cases transition member closing).2 with ⟨poisoned, _⟩ | ⟨closes, _⟩
    · cases healthy.symm.trans poisoned
    · exact Or.inl closes
  · exact Or.inr fails

/-- A step changes neither the flag nor the poison unless it is one of these. -/
theorem Orderly.keepsFlags {q : Queue α} (orderly : q.Orderly) {turn : Turn α}
    (transition : q.Transition turn.now turn.thread turn.move turn.progress)
    (open_stays : ¬ q.Closes turn) (healthy : ¬ q.Fails turn)
    : turn.progress.queue.fifo.closed = q.fifo.closed
      ∧ turn.progress.queue.poisoned = q.poisoned := by
  refine ⟨?_, (orderly.poison_cases transition).resolve_right healthy⟩
  cases before : q.fifo.closed with
  | true => exact orderly.stable transition Fifo.stable_closed before
  | false =>
    apply Bool.eq_false_iff.mpr
    intro closed
    exact (orderly.cause transition before closed).elim open_stays healthy

/-- A step that ends a call leaves the state under the lock alone and the lock healthy, unless
the sink fails in it.
-/
theorem Transition.kept_of_answer {q : Queue α} {now thread : Nat} {move : Move α}
    {progress : Progress α} (transition : q.Transition now thread move progress)
    {answer : Answer α} (answered : progress.answer = some answer)
    (survives : answer ≠ .sinkFailed)
    : progress.queue.state = q.state ∧ progress.queue.poisoned = q.poisoned := by
  cases transition with
  | inspects | refuses | ends => exact ⟨rfl, rfl⟩
  | fails | failsAgain => exact absurd (Option.some.inj answered).symm survives
  | begins | sleeps | stirs | enters | cleansUp | stumbles | failsGuarded => cases answered

/-- What comes to hold in the course of a run does so in one of its turns. -/
theorem Run.turning {q last : Queue α} {late : List (Turn α)} (run : Run q late last)
    {P : Queue α → Prop} (before : ¬ P q) (after : P last)
    : ∃ early turn rest met,
        late = early ++ turn :: rest
        ∧ Run q early met
        ∧ met.step? turn.now turn.thread turn.move = some turn.progress
        ∧ ¬ P met
        ∧ P turn.progress.queue := by
  induction run with
  | start => exact absurd after before
  | @step history met turn earlier made ih =>
    by_cases already : P met
    · obtain ⟨early, turning, rest, there, rfl, found⟩ := ih already
      exact ⟨early, turning, rest ++ [turn], there, by simp, found⟩
    · exact ⟨history, turn, [], met, rfl, earlier, made, already, after⟩

end Queue

-----------------------------------------------------------------------------------------
-- Calls with another note on their thread
-----------------------------------------------------------------------------------------

/-- The call, had its thread been failing or not when it began. -/
def Call.noting (failing : Bool) (call : Call α) : Call α :=
  { call with alreadyFailing := failing }

/-- The phase, had the thread been failing or not when its call began. -/
def Phase.noting (failing : Bool) : Phase α → Phase α
  | .idle => .idle
  | .arrived call => .arrived (call.noting failing)
  | .inside call outcome reporting => .inside (call.noting failing) outcome reporting
  | .parked side call => .parked side (call.noting failing)
  | .woken side call => .woken side (call.noting failing)
  | .stumbling sleptOn call => .stumbling sleptOn (call.noting failing)
  | .failing call => .failing (call.noting failing)

namespace Phase

/-- Whether the thread was already failing when it began the call that it is in. -/
def wasFailing : Phase α → Bool
  | .idle => false
  | .arrived call | .inside call _ _ | .parked _ call | .woken _ call | .stumbling _ call
  | .failing call =>
    call.alreadyFailing

theorem wasFailing_of_atSink? {phase : Phase α} {call : Call α}
    (reports : phase.atSink? = some call)
    : phase.wasFailing = call.alreadyFailing := by
  rcases cases_of_atSink? reports with ⟨outcome, rfl⟩ | ⟨sleptOn, rfl⟩ <;> rfl

@[simp] theorem isParked_noting (failing : Bool) (side : Side) (phase : Phase α)
    : (phase.noting failing).isParked side = phase.isParked side := by
  cases phase <;> rfl

@[simp] theorem wake_noting (failing : Bool) (phase : Phase α)
    : (phase.noting failing).wake = phase.wake.noting failing := by
  cases phase <;> rfl

end Phase

namespace Queue

/-- The phases of all threads, with another note on one of them. -/
def notingAt (thread : Nat) (failing : Bool) (phases : List (Phase α)) : List (Phase α) :=
  phases.mapIdx fun other phase => if other = thread then phase.noting failing else phase

/-- The queue, had `thread` been failing or not when its call began. -/
def noting (q : Queue α) (thread : Nat) (failing : Bool) : Queue α :=
  { q with phases := notingAt thread failing q.phases }

end Queue

def Progress.noting (progress : Progress α) (thread : Nat) (failing : Bool) : Progress α :=
  { progress with queue := progress.queue.noting thread failing }

/-- The step, had `thread` been failing or not when its call began: the same move with the
same events and the same answer.
-/
def Turn.noting (turn : Turn α) (thread : Nat) (failing : Bool) : Turn α :=
  { turn with progress := turn.progress.noting thread failing }

namespace Queue

section
variable {q : Queue α} {thread : Nat} {failing : Bool}

/-- A note is nothing to whoever sends a wakeup. -/
theorem discreet_noting (thread : Nat) (failing : Bool)
    : Discreet fun other (phase : Phase α) =>
        if other = thread then phase.noting failing else phase := by
  constructor
  all_goals
    intros
    split <;> simp

theorem phase?_noting_self
    : (q.noting thread failing).phase? thread
      = (q.phase? thread).map (Phase.noting failing) := by
  simp [phase?, noting, notingAt]

/-- The note says nothing about a thread without a call. -/
theorem noting_of_idle (idle : q.phase? thread = some .idle)
    : q.noting thread failing = q := by
  apply recast_eq_self
  intro other phase found
  split
  · rename_i own
    subst own
    obtain rfl := Option.some.inj (idle.symm.trans found)
    rfl
  · rfl

-----------------------------------------------------------------------------------------
-- Steps and runs with another note
-----------------------------------------------------------------------------------------

theorem setPhase_noting_self (q : Queue α) (thread : Nat) (failing : Bool) (new : Phase α)
    : (q.noting thread failing).setPhase thread (new.noting failing)
      = (q.setPhase thread new).noting thread failing :=
  setPhase_recast q thread (if_pos rfl)

theorem enterWith_noting_self (call : Call α) (preferred : List Nat)
    (done : Section α (Outcome α))
    : (q.noting thread failing).enterWith thread (call.noting failing) preferred done
      = (q.enterWith thread call preferred done).noting thread failing :=
  (discreet_noting thread failing).enterWith q thread preferred done (if_pos rfl)

/-- A step of another thread goes the same way. -/
theorem Transition.noting_other {now other : Nat} {move : Move α} {progress : Progress α}
    (transition : q.Transition now other move progress) (different : other ≠ thread)
    : (q.noting thread failing).Transition now other move
        (progress.noting thread failing) :=
  transition.recast (discreet_noting thread failing) fun _ => if_neg different

/-- A step of the thread itself goes the same way, unless the sink fails under it. -/
theorem Transition.noting_self {now : Nat} {move : Move α} {progress : Progress α}
    (transition : q.Transition now thread move progress) (goesOn : move.called? = none)
    (healthy : move.isFailure = false)
    (unfailed : ∀ call, q.phase? thread ≠ some (.failing call))
    : (q.noting thread failing).Transition now thread move
        (progress.noting thread failing) := by
  have found
      : ∀ {phase},
          q.phase? thread = some phase
          → (q.noting thread failing).phase? thread = some (phase.noting failing) :=
    fun here => phase?_noting_self.trans (congrArg (Option.map _) here)
  cases transition with
  | begins => cases goesOn
  | fails | failsGuarded | failsAgain => cases healthy
  | cleansUp here => exact absurd here (unfailed _)
  | @stumbles call sleptOn door free locks alarmed =>
    simp only [Progress.noting, stumbleWith, ← setPhase_noting_self]
    have there := found door
    cases sleptOn with
    | none => exact .stumbles none there free locks alarmed
    | some side => exact .stumbles (some side) there free locks alarmed
  | @enters _ call sleptOn door free locks =>
    rw [← enterWith_noting_self]
    have there := found door
    cases sleptOn with
    | none => exact .enters none there free locks
    | some side => exact .enters (some side) there free locks
  | inspects here asks =>
    simp only [Progress.noting, ← setPhase_noting_self]
    exact .inspects (found here) asks
  | refuses here held busy =>
    simp only [Progress.noting, ← setPhase_noting_self]
    exact .refuses (found here) held busy
  | ends here =>
    simp only [Progress.noting, ← setPhase_noting_self]
    exact .ends (found here)
  | sleeps here =>
    simp only [Progress.noting, ← setPhase_noting_self]
    exact .sleeps (found here)
  | stirs here =>
    simp only [Progress.noting, ← setPhase_noting_self]
    exact .stirs (found here)

/-- A thread has to clean up only after the sink has failed under it. -/
theorem Transition.unfailed {now other : Nat} {move : Move α} {progress : Progress α}
    (transition : q.Transition now other move progress)
    (healthy : other = thread → move.isFailure = false)
    (unfailed : ∀ call, q.phase? thread ≠ some (.failing call))
    : ∀ call, progress.queue.phase? thread ≠ some (.failing call) := by
  intro call failing
  by_cases own : other = thread
  · subst own
    cases transition with
    | failsGuarded => cases healthy rfl
    | enters _ door =>
      cases failing.symm.trans (phase?_enterWith_self door)
    | cleansUp here => exact unfailed _ here
    | begins here | inspects here | refuses here | stumbles _ here | ends here | sleeps here
    | fails here | failsAgain here | stirs here =>
      cases failing.symm.trans (phase?_setPhase_self here _)
  · rcases transition.others (Ne.symm own) with kept | ⟨_, _, _, woken⟩
    · exact unfailed call (kept.symm.trans failing)
    · cases woken.symm.trans failing

/-- The turns of others, and those in which a thread goes on with its call while the sink does
not fail under it.
-/
def GoesOn (thread : Nat) (late : List (Turn α)) : Prop :=
  ∀ turn ∈ late,
    turn.thread = thread → turn.move.called? = none ∧ turn.move.isFailure = false

/-- While a thread goes on with its call, every run goes the same way with another note on it;
by induction on the run.
-/
theorem Run.noting {last : Queue α} {late : List (Turn α)} (run : Run q late last)
    (goesOn : GoesOn thread late) (unfailed : ∀ call, q.phase? thread ≠ some (.failing call))
    (failing : Bool)
    : Run (q.noting thread failing) (late.map (·.noting thread failing))
          (last.noting thread failing)
      ∧ ∀ call, last.phase? thread ≠ some (.failing call) := by
  induction run with
  | start => exact ⟨.start, unfailed⟩
  | @step history met turn before made ih =>
    obtain ⟨same, healthy⟩ :=
      ih fun other member => goesOn other (List.mem_append_left _ member)
    have newest := goesOn turn (List.mem_append_right _ (List.mem_singleton_self turn))
    have transition := Transition.of_step? made
    refine ⟨?_, transition.unfailed (fun own => (newest own).2) healthy⟩
    have next : (met.noting thread failing).Transition turn.now turn.thread turn.move
        (turn.progress.noting thread failing) := by
      by_cases own : turn.thread = thread
      · subst own
        obtain ⟨asks, steady⟩ := newest rfl
        exact transition.noting_self asks steady healthy
      · exact transition.noting_other own
    rw [List.map_append]
    exact same.append next.run

end

/-- A call goes the same way whether or not its thread was already failing when it began: the
same moves lead to the same answers, events and states, and once the call has ended nothing
tells the two runs apart.
-/
theorem Run.unwinding {q last : Queue α} {thread now : Nat} {operation : Operation α}
    {failing : Bool} {begun : Progress α} {late : List (Turn α)}
    (begins : q.step? now thread (.call operation failing) = some begun)
    (run : Run begun.queue late last) (goesOn : GoesOn thread late) (otherwise : Bool)
    : q.step? now thread (.call operation otherwise) = some (begun.noting thread otherwise)
      ∧ Run (begun.queue.noting thread otherwise) (late.map (·.noting thread otherwise))
          (last.noting thread otherwise)
      ∧ (last.phase? thread = some .idle → last.noting thread otherwise = last) := by
  have transition := Transition.of_step? begins
  cases transition with
  | begins idle =>
    have unfailed
        : ∀ call,
            (q.setPhase thread
              (.arrived
                { operation
                  deadline := operation.timeout.deadline q.clock now
                  alreadyFailing := failing })).phase? thread
            ≠ some (.failing call) := by
      intro call failed
      cases failed.symm.trans (phase?_setPhase_self idle _)
    refine ⟨?_, (run.noting goesOn unfailed otherwise).1, noting_of_idle⟩
    have again : q.Transition now thread (.call operation otherwise) _ := .begins idle
    rw [again.step?]
    simp only [Progress.noting, ← setPhase_noting_self, noting_of_idle idle]
    rfl

end Queue

end Conduit
