import Conduit.Proofs.Queue.Runs

/-! A queue some of whose threads are seen otherwise than they are.
What a thread does under the lock depends on the others only through who sleeps. So a change
of phases that neither puts to sleep nor wakes can be made before a step as well as after it,
as long as the thread that moves is seen as it is.
-/

namespace Conduit

variable {α : Type}

namespace Queue

/-- The queue with each thread where `f` sees it. -/
def recast (q : Queue α) (f : Nat → Phase α → Phase α) : Queue α :=
  { q with phases := q.phases.mapIdx f }

/-- A change of phases that concerns nobody's sleep. -/
structure Discreet (f : Nat → Phase α → Phase α) : Prop where
  parked : ∀ thread side phase, (f thread phase).isParked side = phase.isParked side
  wakes : ∀ thread phase, (f thread phase).wake = f thread phase.wake

end Queue

def Progress.recast (progress : Progress α) (f : Nat → Phase α → Phase α) : Progress α :=
  { progress with queue := progress.queue.recast f }

namespace Queue

variable {q : Queue α} {f : Nat → Phase α → Phase α}

@[simp] theorem phase?_recast (q : Queue α) (f : Nat → Phase α → Phase α) (thread : Nat)
    : (q.recast f).phase? thread = (q.phase? thread).map (f thread) := by
  simp [phase?, recast]

/-- Moving a thread and seeing it otherwise can be done in either order. -/
theorem setPhase_recast (q : Queue α) (thread : Nat) {old new : Phase α}
    (seen : f thread old = new)
    : (q.recast f).setPhase thread new = (q.setPhase thread old).recast f := by
  simp [setPhase, recast, List.mapIdx_set, seen]

/-- A thread that has moved can be seen as it was before. -/
theorem recast_setPhase_eq {g : Nat → Phase α → Phase α} {thread : Nat} {old new : Phase α}
    (found : q.phase? thread = some old) (self : f thread new = g thread old)
    (others : ∀ other, other ≠ thread → f other = g other)
    : (q.setPhase thread new).recast f = q.recast g := by
  have phases : (q.phases.set thread new).mapIdx f = q.phases.mapIdx g := by
    apply List.ext_getElem?
    intro other
    by_cases own : other = thread
    · subst own
      have here : q.phases[other]? = some old := found
      have within := (List.getElem?_eq_some_iff.mp here).1
      have set := List.getElem?_set_self (a := new) within
      rw [List.getElem?_mapIdx, List.getElem?_mapIdx, set, here, Option.map_some,
        Option.map_some, self]
    · rw [List.getElem?_mapIdx, List.getElem?_mapIdx, List.getElem?_set_ne (Ne.symm own),
        others other own]
  simp only [recast, setPhase, phases]

/-- A change is none if it leaves every thread where it is. -/
theorem recast_eq_self
    (same : ∀ {thread phase}, q.phase? thread = some phase → f thread phase = phase)
    : q.recast f = q := by
  have phases : q.phases.mapIdx f = q.phases := by
    apply List.ext_getElem?
    intro thread
    cases here : q.phases[thread]? with
    | none => simp [here]
    | some phase => simp [here, same here]
  rw [recast, phases]

/-- A wakeup reaches the same sleeper. -/
theorem Discreet.deliver (discreet : Discreet f) (preferred : List Nat)
    (phases : List (Phase α)) (wake : Wake)
    : Queue.deliver preferred (phases.mapIdx f) wake
      = (Queue.deliver preferred phases wake).mapIdx f := by
  cases wake with
  | one side =>
    have same : sleeps (phases.mapIdx f) side = sleeps phases side := by
      funext thread
      cases here : phases[thread]? with
      | none => simp [sleeps, here]
      | some phase => simp [sleeps, here, discreet.parked]
    have target
        : wakeTarget? (phases.mapIdx f) preferred side
          = wakeTarget? phases preferred side := by
      simp only [wakeTarget?, same, List.length_mapIdx]
    simp only [Queue.deliver, target]
    cases wakeTarget? phases preferred side with
    | none => rfl
    | some sleeper =>
      apply List.ext_getElem?
      intro thread
      cases here : phases[thread]? with
      | none => simp [List.getElem?_modify, here]
      | some phase =>
        simp only [List.getElem?_modify, List.getElem?_mapIdx, here, Option.map_eq_map,
          Option.map_some]
        split <;> simp [discreet.wakes]
  | all side =>
    apply List.ext_getElem?
    intro thread
    cases here : phases[thread]? with
    | none => simp [Queue.deliver, here]
    | some phase =>
      simp only [Queue.deliver, List.getElem?_map, List.getElem?_mapIdx, here, Option.map_some,
        discreet.parked, discreet.wakes]
      split <;> rfl

theorem Discreet.foldl_deliver (discreet : Discreet f) (preferred : List Nat)
    (wakes : List Wake) (phases : List (Phase α))
    : wakes.foldl (Queue.deliver preferred) (phases.mapIdx f)
      = (wakes.foldl (Queue.deliver preferred) phases).mapIdx f := by
  induction wakes generalizing phases with
  | nil => rfl
  | cons wake rest ih => rw [List.foldl_cons, List.foldl_cons, discreet.deliver, ih]

/-- A thread takes the lock in the same way. -/
theorem Discreet.enterWith (discreet : Discreet f) (q : Queue α) (thread : Nat)
    {call seen : Call α} (preferred : List Nat) (done : Section α (Outcome α))
    (inside
      : f thread (.inside call done.result (canFail done.events))
        = .inside seen done.result (canFail done.events))
    : (q.recast f).enterWith thread seen preferred done
      = (q.enterWith thread call preferred done).recast f := by
  simp only [Queue.enterWith, Progress.recast, recast, discreet.foldl_deliver,
    List.mapIdx_set, inside]

/-- A thread that is seen as it is moves in the same way. -/
theorem Transition.recast {now thread : Nat} {move : Move α} {progress : Progress α}
    (transition : q.Transition now thread move progress) (discreet : Discreet f)
    (asIs : ∀ phase, f thread phase = phase)
    : (q.recast f).Transition now thread move (progress.recast f) := by
  have found
      : ∀ {phase},
          q.phase? thread = some phase → (q.recast f).phase? thread = some phase := by
    intro phase here
    simp [here, asIs]
  have moved
      : ∀ (met : Queue α) (new : Phase α),
          (met.setPhase thread new).recast f = (met.recast f).setPhase thread new :=
    fun met new => (setPhase_recast met thread (asIs new)).symm
  cases transition with
  | enters sleptOn door free locks =>
    rw [← discreet.enterWith _ _ _ _ (asIs _)]
    exact .enters sleptOn (found door) free locks
  | cleansUp here free =>
    rw [← discreet.enterWith _ _ _ _ (asIs _)]
    exact .cleansUp (found here) free
  | begins here =>
    simp only [Progress.recast, moved]
    exact .begins (found here)
  | inspects here asks =>
    simp only [Progress.recast, moved]
    exact .inspects (found here) asks
  | refuses here held busy =>
    simp only [Progress.recast, moved]
    exact .refuses (found here) held busy
  | ends here =>
    simp only [Progress.recast, moved]
    exact .ends (found here)
  | sleeps here =>
    simp only [Progress.recast, moved]
    exact .sleeps (found here)
  | stumbles sleptOn door free locks alarmed =>
    simp only [Progress.recast, stumbleWith, moved]
    exact .stumbles sleptOn (found door) free locks alarmed
  | fails here reports healthy careless =>
    simp only [Progress.recast, moved]
    exact .fails (found here) reports healthy careless
  | failsGuarded here reports healthy careful =>
    simp only [Progress.recast, moved]
    exact .failsGuarded (found here) reports healthy careful
  | failsAgain here reports unwinding =>
    simp only [Progress.recast, moved]
    exact .failsAgain (found here) reports unwinding
  | stirs here =>
    simp only [Progress.recast, moved]
    exact .stirs (found here)

end Queue

end Conduit
