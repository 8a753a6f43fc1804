import Conduit.Proofs.Queue.Orderly
import Conduit.Queue.Create

/-! Runs of any number of threads on one queue, from its creation on.
Which thread moves next, what it calls, when its sleep ends and whether the sink fails under
it is left open, so that a statement about all runs is one about all interleavings.
-/

namespace Conduit

variable {α : Type}

-----------------------------------------------------------------------------------------
-- A queue that has just been created
-----------------------------------------------------------------------------------------

/-- Loading appends the rest of a list to a ring, if there is room for it. The budget is what
an empty ring of this size starts with, less what has been loaded.
-/
theorem Ring.load_ofList {values : List α} {ring loaded : Ring α} {index pulled budget : Nat}
    (valid : ring.Valid) (within : ring.length + budget = ring.capacity + 1)
    (loads : ring.load (.ofList values) index budget = (some loaded, pulled))
    : loaded.Valid
      ∧ loaded.capacity = ring.capacity
      ∧ loaded.toList = ring.toList ++ values.drop index := by
  induction budget generalizing ring index with
  | zero =>
    have bound := Ring.length_le_capacity valid
    omega
  | succ budget ih =>
    have item : Items.ofList values index = values[index]? := by simp [Items.ofList]
    rw [Ring.load, item] at loads
    cases found : values[index]? with
    | none =>
      rw [found] at loads
      obtain ⟨rfl, rfl⟩ : ring = loaded ∧ index = pulled := by simpa using loads
      have past : values.length ≤ index := List.getElem?_eq_none_iff.mp found
      exact ⟨valid, rfl, by rw [List.drop_eq_nil_of_le past, List.append_nil]⟩
    | some value =>
      rw [found] at loads
      cases full : ring.isFull with
      | true =>
        simp [Ring.pushBack_of_full full] at loads
      | false =>
        simp only [Ring.pushBack_of_not_full full] at loads
        have longer := Ring.length_pushed valid full value
        obtain ⟨valid', same, list⟩ :=
          ih (Ring.valid_pushed valid full value)
            (by change _ = ring.capacity + 1; omega) loads
        obtain ⟨below, here⟩ := List.getElem?_eq_some_iff.mp found
        refine ⟨valid', same, ?_⟩
        rw [list, Ring.toList_pushed valid full, List.drop_eq_getElem_cons below, here]
        simp

namespace Queue

/-- A queue that could be created holds the first elements in their order and has room for at
least one.
-/
theorem created_eq {slotBytes : Nat} {config : Config} {values : List α} {fresh : Queue α}
    (created : (ofConfigAndItems slotBytes config (.ofList values)).result = .ok fresh)
    : ∃ ring : Ring α,
        fresh = ofRing config ring
        ∧ ring.Valid
        ∧ ring.capacity = config.capacity
        ∧ ring.toList = values
        ∧ 0 < config.capacity := by
  unfold ofConfigAndItems Config.validate Ring.allocate? at created
  split at created
  · cases created
  · rename_i accepted
    have positive : 0 < config.capacity := by
      split at accepted
      · cases accepted
      · omega
    split at created
    · cases created
    · rename_i ring allocated
      split at allocated
      · obtain rfl := Option.some.inj allocated
        split at created
        · cases created
        · rename_i loaded pulled loads
          obtain ⟨valid, same, list⟩ :=
            Ring.load_ofList (Ring.valid_empty config.capacity)
              (by simp [Ring.empty, Ring.length]) loads
          refine ⟨loaded, (Except.ok.inj created).symm, valid, same, ?_, positive⟩
          rw [list, Ring.toList_empty, List.nil_append, List.drop_zero]
      · cases allocated

/-- A queue without first elements can be created if it has room for one and its slots fit
into memory.
-/
theorem created_empty {slotBytes : Nat} {config : Config} (positive : 0 < config.capacity)
    (fits : (config.capacity + 1) * slotBytes ≤ Ring.largestBlock)
    : (ofConfig slotBytes config : Creation α).result
      = .ok (ofRing config (.empty config.capacity)) := by
  have accepted : config.validate = .ok () := if_neg (Nat.pos_iff_ne_zero.mp positive)
  have allocated
      : Ring.allocate? slotBytes config.capacity
        = some (Ring.empty config.capacity : Ring α) :=
    if_pos fits
  have nothing
      : Ring.load .empty (Ring.empty config.capacity : Ring α) 0 (config.capacity + 1)
        = (some (.empty config.capacity), 0) := rfl
  simp [ofConfig, ofConfigAndItems, accepted, allocated, nothing]

/-- The queue with so many threads that have no call in progress, and with the clock that they
are to wait by.
-/
def withThreads (q : Queue α) (clock : Clock) (threads : Nat) : Queue α :=
  { q with clock, phases := List.replicate threads .idle }

-----------------------------------------------------------------------------------------
-- Runs
-----------------------------------------------------------------------------------------

end Queue

/-- One step of a run: the tick, the thread, its move, and what that led to. -/
structure Turn (α : Type) where
  now : Nat
  thread : Nat
  move : Move α
  progress : Progress α

namespace Queue

/-- A run from `start`: the steps made so far, oldest first, and the queue they led to. -/
inductive Run (start : Queue α) : List (Turn α) → Queue α → Prop
  | start : Run start [] start
  | step {history q turn} (before : Run start history q)
    (made : q.step? turn.now turn.thread turn.move = some turn.progress)
    : Run start (history ++ [turn]) turn.progress.queue

theorem Run.append {start middle last : Queue α} {early late : List (Turn α)}
    (first : Run start early middle) (second : Run middle late last)
    : Run start (early ++ late) last := by
  induction second with
  | start => rwa [List.append_nil]
  | step _ made ih =>
    rw [← List.append_assoc]
    exact .step ih made

theorem Run.eq_of_nil {start last : Queue α} (run : Run start [] last) : last = start := by
  generalize none : ([] : List (Turn α)) = history at run
  cases run with
  | start => rfl
  | step => exact absurd none (by simp)

/-- Every turn of a run has a run before it and one after it. -/
theorem Run.split {start last : Queue α} {history : List (Turn α)}
    (run : Run start history last) {turn : Turn α} (member : turn ∈ history)
    : ∃ early before late,
        history = early ++ turn :: late
        ∧ Run start early before
        ∧ before.step? turn.now turn.thread turn.move = some turn.progress
        ∧ Run turn.progress.queue late last := by
  induction run with
  | start => cases member
  | @step history last newest before made ih =>
    rcases List.mem_append.mp member with earlier | same
    · obtain ⟨early, met, late, split, first, turns, rest⟩ := ih earlier
      refine ⟨early, met, late ++ [newest], ?_, first, turns, .step rest made⟩
      rw [split, List.append_assoc, List.cons_append]
    · obtain rfl := List.mem_singleton.mp same
      exact ⟨history, last, [], rfl, before, made, .start⟩

theorem Transition.clock_eq {q : Queue α} {now thread : Nat} {move : Move α}
    {progress : Progress α} (transition : q.Transition now thread move progress)
    : progress.queue.clock = q.clock := by
  cases transition <;> rfl

/-- A queue keeps its clock. -/
theorem Run.clock_eq {start q : Queue α} {history : List (Turn α)} (run : Run start history q)
    : q.clock = start.clock := by
  induction run with
  | start => rfl
  | step before made ih =>
    have same := Transition.clock_eq (.of_step? made)
    exact same.trans ih

/-- A thread keeps its place at the queue. -/
theorem Run.present {start last : Queue α} {history : List (Turn α)}
    (run : Run start history last) {thread : Nat} {old : Phase α}
    (found : start.phase? thread = some old)
    : ∃ new, last.phase? thread = some new := by
  induction run with
  | start => exact ⟨old, found⟩
  | @step history last turn before made ih =>
    obtain ⟨phase, here⟩ := ih
    have transition := Transition.of_step? made
    by_cases same : thread = turn.thread
    · subst same
      obtain ⟨_, new, _, after⟩ := transition.present
      exact ⟨new, after⟩
    · rcases transition.others same with kept | ⟨_, _, _, woken⟩
      · exact ⟨phase, kept.trans here⟩
      · exact ⟨_, woken⟩

/-- A run keeps the discipline of the lock, by induction on it. -/
theorem Run.orderly_after {start last : Queue α} {history : List (Turn α)}
    (run : Run start history last) (orderly : start.Orderly)
    : last.Orderly := by
  induction run with
  | start => exact orderly
  | step _ made ih => exact ih.transition (.of_step? made)

/-- One step is a run. -/
theorem Transition.run {q : Queue α} {now thread : Nat} {move : Move α} {progress : Progress α}
    (transition : q.Transition now thread move progress)
    : Run q [⟨now, thread, move, progress⟩] progress.queue :=
  .step .start transition.step?

/-- Plays the given moves and records what happens, as long as they can be made. -/
def play (q : Queue α) : List (Nat × Nat × Move α) → List (Turn α) × Queue α
  | [] => ([], q)
  | (now, thread, move) :: rest =>
    match q.step? now thread move with
    | none => ([], q)
    | some progress =>
      let (turns, last) := progress.queue.play rest
      (⟨now, thread, move, progress⟩ :: turns, last)

/-- What has been played is a run. -/
theorem Run.of_play (q : Queue α) (moves : List (Nat × Nat × Move α))
    : Run q (q.play moves).1 (q.play moves).2 := by
  induction moves generalizing q with
  | nil => exact .start
  | cons head rest ih =>
    obtain ⟨now, thread, move⟩ := head
    unfold play
    split
    · exact .start
    · rename_i progress made
      have first : Run q [⟨now, thread, move, progress⟩] progress.queue := .step .start made
      exact first.append (ih progress.queue)

theorem mem_of_play {q : Queue α} {moves : List (Nat × Nat × Move α)} {turn : Turn α}
    (member : turn ∈ (q.play moves).1)
    : (turn.now, turn.thread, turn.move) ∈ moves := by
  induction moves generalizing q with
  | nil => cases member
  | cons head rest ih =>
    obtain ⟨now, thread, move⟩ := head
    unfold play at member
    split at member
    · cases member
    · rcases List.mem_cons.mp member with rfl | later
      · exact List.mem_cons_self ..
      · exact List.mem_cons_of_mem _ (ih later)

theorem phase?_withThreads {q : Queue α} {clock : Clock} {threads thread : Nat} {phase : Phase α}
    (found : (q.withThreads clock threads).phase? thread = some phase)
    : phase = .idle := by
  unfold phase? withThreads at found
  rw [List.getElem?_replicate] at found
  split at found
  · exact (Option.some.inj found).symm
  · cases found

section
variable {slotBytes threads : Nat} {clock : Clock} {config : Config} {values : List α}
  {fresh : Queue α}

theorem Orderly.of_created
    (created : (ofConfigAndItems slotBytes config (.ofList values)).result = .ok fresh)
    : (fresh.withThreads clock threads).Orderly := by
  obtain ⟨ring, rfl, valid, same, _, positive⟩ := created_eq created
  refine ⟨⟨valid, same⟩, positive, ?_, (fun held => by cases held),
    fun poisoned => by cases poisoned⟩
  intro thread phase found
  rw [phase?_withThreads found]
  trivial

/-- Every queue that a run can reach is orderly. -/
theorem Run.orderly {history : List (Turn α)} {q : Queue α}
    (created : (ofConfigAndItems slotBytes config (.ofList values)).result = .ok fresh)
    (run : Run (fresh.withThreads clock threads) history q)
    : q.Orderly :=
  run.orderly_after (.of_created created)

/-- What holds at the start and is kept by every step from an orderly queue holds after every
run.
-/
theorem Run.invariant {history : List (Turn α)} {q : Queue α}
    (created : (ofConfigAndItems slotBytes config (.ofList values)).result = .ok fresh)
    (run : Run (fresh.withThreads clock threads) history q) (P : Queue α → Prop)
    (first : P (fresh.withThreads clock threads))
    (kept
      : ∀ {q : Queue α} {now thread move progress},
          q.Orderly → P q → q.Transition now thread move progress → P progress.queue)
    : P q := by
  induction run with
  | start => exact first
  | step before made ih => exact kept (before.orderly created) ih (.of_step? made)

end

end Queue

end Conduit
