import Conduit.Proofs.World.Runs

/-! Programs that cannot be told apart by the queues that they use.
A queue knows a program by what it asks for, and a program knows a queue by what it is
answered. So whatever happens with some programs happens with others that ask for the same
and go on alike.
-/

namespace Conduit

variable {σ τ α : Type}

/-- Programs that are related ask for the same calls, and are related again whatever they are
answered. Which programs are related may depend on the thread that runs them.
-/
structure Program.Mirrors (left : Program σ α) (right : Program τ α) (R : Nat → σ → τ → Prop)
    : Prop where
  asks : ∀ {thread a b}, R thread a b → left.request? a = right.request? b
  resumes
    : ∀ {thread a b},
        R thread a b → ∀ answer, R thread (left.resume a answer) (right.resume b answer)

/-- Worlds that differ in nothing but their programs, which are related thread by thread. -/
structure World.Mirrored (R : Nat → σ → τ → Prop) (w : World σ α) (other : World τ α)
    : Prop where
  now : w.now = other.now
  queues : w.queues = other.queues
  log : w.log = other.log
  programs : ∀ thread, Option.Rel (R thread) w.programs[thread]? other.programs[thread]?

section
variable {left : Program σ α} {right : Program τ α} {R : Nat → σ → τ → Prop}

theorem Program.Mirrors.symm (mirrors : left.Mirrors right R)
    : right.Mirrors left fun thread b a => R thread a b where
  asks related := (mirrors.asks related).symm
  resumes := mirrors.resumes

namespace World

variable {w start : World σ α} {other start' : World τ α}

theorem Mirrored.symm (same : w.Mirrored R other)
    : other.Mirrored (fun thread b a => R thread a b) w where
  now := same.now.symm
  queues := same.queues.symm
  log := same.log.symm
  programs thread := by
    have rel := same.programs thread
    generalize w.programs[thread]? = a at rel ⊢
    generalize other.programs[thread]? = b at rel ⊢
    cases rel with
    | none => exact .none
    | some related => exact .some related

theorem Mirrored.program (same : w.Mirrored R other) {thread : Nat} {a : σ}
    (runs : w.programs[thread]? = some a)
    : ∃ b, other.programs[thread]? = some b ∧ R thread a b := by
  have rel := same.programs thread
  rw [runs] at rel
  generalize other.programs[thread]? = found at rel ⊢
  cases rel with
  | some related => exact ⟨_, rfl, related⟩

/-- Programs that go on alike stay related in their places. -/
theorem Mirrored.set (same : w.Mirrored R other) {thread : Nat} {a a' : σ} {b b' : τ}
    (runs : w.programs[thread]? = some a) (runs' : other.programs[thread]? = some b)
    (related : R thread a' b') (index : Nat)
    : Option.Rel (R index) (w.programs.set thread a')[index]?
        (other.programs.set thread b')[index]? := by
  by_cases own : index = thread
  · subst own
    rw [List.getElem?_set_self (List.getElem?_eq_some_iff.mp runs).1,
      List.getElem?_set_self (List.getElem?_eq_some_iff.mp runs').1]
    exact .some related
  · rw [List.getElem?_set_ne (Ne.symm own), List.getElem?_set_ne (Ne.symm own)]
    exact same.programs index

/-- A step of one world is a step of the other, and the same happens in both. -/
theorem Mirrored.step (same : w.Mirrored R other) (mirrors : left.Mirrors right R)
    {thread : Nat} {action : Action} {after : World σ α}
    (made : w.step? left thread action = some after)
    : ∃ after',
        other.step? right thread action = some after'
        ∧ other.happening? right thread action = w.happening? left thread action
        ∧ after.Mirrored R after' := by
  obtain ⟨a, queue, happening, happens, rfl, acts⟩ := Acts.of_step? made
  obtain ⟨now, moves, later, log⟩ := step?_frame made happens
  obtain ⟨b, runs, related⟩ := same.program acts.runs
  have asks := (mirrors.asks related).symm.trans acts.asks
  have found : other.queues[happening.request.queue]? = some queue := same.queues ▸ acts.found
  have steps
      : queue.step? other.now happening.turn.thread (action.move happening.request)
        = some happening.turn.progress := by
    rw [← same.now, ← now, ← moves]
    exact acts.made
  obtain ⟨after', made', happens'⟩ := step?_of_queue action runs asks found steps
  have alike : other.happening? right happening.turn.thread action = some happening := by
    rw [happens', ← same.now, ← now, ← moves]
  obtain ⟨b', _, _, known, _, acts'⟩ := Acts.of_step? made'
  obtain rfl := Option.some.inj (alike.symm.trans known)
  obtain rfl := Option.some.inj (runs.symm.trans acts'.runs)
  obtain ⟨_, _, later', log'⟩ := step?_frame made' alike
  refine ⟨after', made', alike.trans happens.symm, ?now, ?queues, ?log, ?programs⟩
  case now => rw [later, later', same.now]
  case queues => rw [acts.queues, acts'.queues, same.queues]
  case log => rw [log, log', same.log]
  case programs =>
    intro thread
    rw [acts.programs, acts'.programs]
    cases happening.turn.progress.answer with
    | none => exact same.programs thread
    | some answer => exact same.set acts.runs runs (mirrors.resumes related answer) thread

/-- So a run of one is a run of the other, by induction on it. -/
theorem Run.mirrored (mirrors : left.Mirrors right R) (same : start.Mirrored R start')
    {history : List (Happening α)} (run : Run left start history w)
    : ∃ w', Run right start' history w' ∧ w.Mirrored R w' := by
  induction run with
  | start => exact ⟨start', .start, same⟩
  | step _ made ih =>
    obtain ⟨w', run', same⟩ := ih
    obtain ⟨after', made', happens, same⟩ := same.step mirrors made
    rw [← happens]
    exact ⟨after', .step run' made', same⟩
  | wait _ tick ih =>
    obtain ⟨w', run', same⟩ := ih
    have later := congrArg (max · tick) same.now
    exact ⟨w'.wait tick, .wait run' tick, later, same.queues, same.log, same.programs⟩

end World

end

end Conduit
