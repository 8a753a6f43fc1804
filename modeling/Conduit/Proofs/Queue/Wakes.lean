import Conduit.Queue.Basic

/-! What a wakeup does to the phases of all threads, whichever sleeper it reaches.
It ends the sleep of at most one thread of its side, or of all of them, and leaves every other
thread where it is. Only the numbers of sleeping and of woken threads matter later on.
-/

namespace Conduit

variable {α : Type}

/-- Whether the thread has stopped sleeping on the given side and waits for the lock. -/
def Phase.isWoken (side : Side) : Phase α → Bool
  | .woken s _ => s = side
  | _ => false

-----------------------------------------------------------------------------------------
-- Counting threads by their phases
-----------------------------------------------------------------------------------------

/-- Moving one thread changes a count by that thread alone. -/
theorem countP_set_toNat {phases : List (Phase α)} {thread : Nat} {old : Phase α}
    (found : phases[thread]? = some old) (new : Phase α) (p : Phase α → Bool)
    : (phases.set thread new).countP p + (p old).toNat
      = phases.countP p + (p new).toNat := by
  induction phases generalizing thread with
  | nil => cases found
  | cons first rest ih =>
    cases thread with
    | zero =>
      cases found
      rw [List.set_cons_zero, List.countP_cons, List.countP_cons]
      cases p old <;> cases p new <;> simp
    | succ thread =>
      have later := ih (by simpa using found)
      rw [List.set_cons_succ, List.countP_cons, List.countP_cons]
      omega

theorem countP_pos_of_getElem? {phases : List (Phase α)} {thread : Nat} {phase : Phase α}
    (found : phases[thread]? = some phase) {p : Phase α → Bool} (counted : p phase = true)
    : 0 < phases.countP p :=
  List.countP_pos_iff.mpr ⟨phase, List.mem_of_getElem? found, counted⟩

-----------------------------------------------------------------------------------------
-- The thread that a single wakeup reaches
-----------------------------------------------------------------------------------------

namespace Queue

theorem wakeTarget?_cases (phases : List (Phase α)) (preferred : List Nat) (side : Side)
    : (∃ thread call,
        wakeTarget? phases preferred side = some thread
        ∧ phases[thread]? = some (.parked side call))
      ∨ (wakeTarget? phases preferred side = none
        ∧ phases.countP (Phase.isParked side) = 0) := by
  cases target : wakeTarget? phases preferred side with
  | some thread =>
    have sleeps : sleeps phases side thread = true := List.find?_some target
    unfold Queue.sleeps at sleeps
    cases found : phases[thread]? with
    | none => simp [found] at sleeps
    | some phase =>
      rw [found] at sleeps
      cases phase <;> simp [Phase.isParked] at sleeps
      subst sleeps
      exact Or.inl ⟨thread, _, rfl, found⟩
  | none =>
    refine Or.inr ⟨rfl, ?_⟩
    rw [List.countP_eq_zero]
    intro phase member parked
    obtain ⟨thread, within, rfl⟩ := List.getElem_of_mem member
    have awake := List.find?_eq_none.mp target thread
      (List.mem_append_right _ (List.mem_range.mpr within))
    simp [Queue.sleeps, within, parked] at awake

/-- Delivering a wakeup to one thread of a side wakes a sleeper or changes nothing. -/
theorem deliver_one_cases (preferred : List Nat) (phases : List (Phase α)) (side : Side)
    : (∃ thread call,
        phases[thread]? = some (.parked side call)
        ∧ deliver preferred phases (.one side) = phases.set thread (.woken side call))
      ∨ (deliver preferred phases (.one side) = phases
        ∧ phases.countP (Phase.isParked side) = 0) := by
  rcases wakeTarget?_cases phases preferred side with
    ⟨thread, call, target, parked⟩ | ⟨target, none⟩
  · refine Or.inl ⟨thread, call, parked, ?_⟩
    simp only [deliver, target]
    apply List.ext_getElem?
    intro other
    by_cases same : thread = other
    · subst same
      have within := (List.getElem?_eq_some_iff.mp parked).1
      rw [List.getElem?_modify_eq, parked, List.getElem?_set_self within]
      rfl
    · rw [List.getElem?_modify_ne _ _ same, List.getElem?_set_ne same]
  · exact Or.inr ⟨by simp only [deliver, target], none⟩

-----------------------------------------------------------------------------------------
-- Threads that a wakeup does not reach stay where they are
-----------------------------------------------------------------------------------------

/-- Compared with `phases`, some sleepers of `after` have been woken, and that is all. -/
def Roused (phases after : List (Phase α)) : Prop :=
  ∀ thread : Nat,
    after[thread]? = phases[thread]?
    ∨ ∃ side call,
        phases[thread]? = some (.parked side call)
        ∧ after[thread]? = some (.woken side call)

theorem Roused.refl (phases : List (Phase α)) : Roused phases phases :=
  fun _ => Or.inl rfl

/-- Waking in two stages is waking, since a woken thread is woken only once. -/
theorem Roused.trans {first second third : List (Phase α)}
    (early : Roused first second) (late : Roused second third)
    : Roused first third := by
  intro thread
  rcases early thread with same | ⟨side, call, parked, woken⟩
  · rw [← same]
    exact late thread
  · rcases late thread with same | ⟨other, call', parked', _⟩
    · exact Or.inr ⟨side, call, parked, same.trans woken⟩
    · rw [woken] at parked'
      cases parked'

/-- A wakeup does nothing but wake sleepers, by cases on whether it is for one or for all. -/
theorem roused_deliver (preferred : List Nat) (phases : List (Phase α)) (wake : Wake)
    : Roused phases (deliver preferred phases wake) := by
  cases wake with
  | one side =>
    rcases deliver_one_cases preferred phases side with
      ⟨target, call, parked, delivered⟩ | ⟨delivered, _⟩
    · intro thread
      rw [delivered]
      by_cases same : target = thread
      · subst same
        have within := (List.getElem?_eq_some_iff.mp parked).1
        exact Or.inr ⟨side, call, parked, List.getElem?_set_self within⟩
      · exact Or.inl (List.getElem?_set_ne same)
    · rw [delivered]
      exact .refl phases
  | all side =>
    intro thread
    simp only [deliver, List.getElem?_map]
    cases found : phases[thread]? with
    | none => exact Or.inl rfl
    | some phase =>
      cases phase with
      | parked other call =>
        by_cases same : other = side
        · exact Or.inr ⟨other, call, rfl, by simp [Phase.isParked, same, Phase.wake]⟩
        · exact Or.inl (by simp [Phase.isParked, same])
      | _ => exact Or.inl (by simp [Phase.isParked])

theorem roused_foldl_deliver (preferred : List Nat) (wakes : List Wake)
    (phases : List (Phase α))
    : Roused phases (wakes.foldl (deliver preferred) phases) := by
  induction wakes generalizing phases with
  | nil => exact .refl phases
  | cons wake rest ih =>
    exact (roused_deliver preferred phases wake).trans (ih (deliver preferred phases wake))

-----------------------------------------------------------------------------------------
-- How many sleepers are left
-----------------------------------------------------------------------------------------

/-- Of `count` sleepers of a side, those that a wakeup leaves asleep. -/
def leftAsleep (side : Side) (count : Nat) : Wake → Nat
  | .one other => if other = side then count - 1 else count
  | .all other => if other = side then 0 else count

/-- When all sleepers of one side are woken, a single thread sleeps on afterwards only if it
slept on the other side, and it was woken if it sleeps no more.
-/
theorem wake_isParked (phase : Phase α) (side other : Side)
    : ((if (if phase.isParked other then phase.wake else phase).isParked side then 1 else 0)
        = if other = side then 0 else if phase.isParked side then 1 else 0)
      ∧ (if (if phase.isParked other then phase.wake else phase).isParked side then 1 else 0)
          + (if (if phase.isParked other then phase.wake else phase).isWoken side then 1 else 0)
        = (if phase.isParked side then 1 else 0) + (if phase.isWoken side then 1 else 0) := by
  cases phase <;> cases side <;> cases other <;>
    simp [Phase.isParked, Phase.isWoken, Phase.wake]
  all_goals rename_i slept call; cases slept <;> simp

/-- A wakeup leaves as many asleep as it should, and whoever stops sleeping is woken. -/
theorem countP_deliver (preferred : List Nat) (phases : List (Phase α)) (wake : Wake)
    (side : Side)
    : (deliver preferred phases wake).countP (Phase.isParked side)
        = leftAsleep side (phases.countP (Phase.isParked side)) wake
      ∧ (deliver preferred phases wake).countP (Phase.isParked side)
          + (deliver preferred phases wake).countP (Phase.isWoken side)
        = phases.countP (Phase.isParked side) + phases.countP (Phase.isWoken side) := by
  cases wake with
  | one other =>
    rcases deliver_one_cases preferred phases other with
      ⟨target, call, parked, delivered⟩ | ⟨delivered, none⟩
    · rw [delivered]
      have sleepers := countP_set_toNat parked (.woken other call) (Phase.isParked side)
      have woken := countP_set_toNat parked (.woken other call) (Phase.isWoken side)
      by_cases same : other = side
      · simp only [Phase.isParked, Phase.isWoken, same, decide_true, Bool.toNat_true,
          Bool.toNat_false] at sleepers woken
        simp only [leftAsleep, same, if_true]
        omega
      · simp only [Phase.isParked, Phase.isWoken, same, decide_false, Bool.toNat_false]
          at sleepers woken
        simp only [leftAsleep, same, if_false]
        omega
    · rw [delivered]
      by_cases same : other = side
      · subst same
        simp only [leftAsleep, none, if_true, and_self]
      · simp only [leftAsleep, same, if_false, and_self]
  | all other =>
    -- All threads are looked at one by one, so that the count is an induction on their list.
    simp only [deliver]
    induction phases with
    | nil => by_cases same : other = side <;> simp [leftAsleep, same]
    | cons phase rest ih =>
      have reached := wake_isParked phase side other
      simp only [List.map_cons, List.countP_cons, leftAsleep] at ih ⊢
      by_cases same : other = side
      · simp only [if_pos same] at ih reached ⊢
        omega
      · simp only [if_neg same] at ih reached ⊢
        omega

theorem countP_foldl_deliver (preferred : List Nat) (wakes : List Wake)
    (phases : List (Phase α)) (side : Side)
    : (wakes.foldl (deliver preferred) phases).countP (Phase.isParked side)
        = wakes.foldl (leftAsleep side) (phases.countP (Phase.isParked side))
      ∧ (wakes.foldl (deliver preferred) phases).countP (Phase.isParked side)
          + (wakes.foldl (deliver preferred) phases).countP (Phase.isWoken side)
        = phases.countP (Phase.isParked side) + phases.countP (Phase.isWoken side) := by
  induction wakes generalizing phases with
  | nil => exact ⟨rfl, rfl⟩
  | cons wake rest ih =>
    have first := countP_deliver preferred phases wake side
    have later := ih (deliver preferred phases wake)
    simp only [List.foldl_cons]
    rw [first.1] at later
    exact ⟨later.1, by omega⟩

/-- Some wakeups for one sleeper of a side each leave that many fewer asleep. -/
theorem foldl_leftAsleep_replicate (side other : Side) (wakes count : Nat)
    : (List.replicate wakes (.one other)).foldl (leftAsleep side) count
      = if other = side then count - wakes else count := by
  induction wakes generalizing count with
  | zero => simp
  | succ wakes ih =>
    simp only [List.replicate_succ, List.foldl_cons, ih, leftAsleep]
    split <;> omega

end Queue

end Conduit
