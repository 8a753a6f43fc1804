import Conduit.Proofs.Queue.EndOfStream
import Conduit.Proofs.World.Runs
import Conduit.Stage

/-! What tasks know of their queues, whatever other programs do beside them.
A task learns of a queue only through the answers that it gets, so that a fact about it is
kept by every step that gives it none.
-/

namespace Conduit

variable {σ τ α : Type}

-----------------------------------------------------------------------------------------
-- The methods behind a route
-----------------------------------------------------------------------------------------

namespace Route

/-- By every route one gets to the methods of the queue itself, by induction on the route: the
methods that an end has to make itself it makes as the queue does.
-/
theorem back_eq (route : Route) : (route.back : Back α) = .queue := by
  induction route with
  | own | endpoint => rfl
  | shared inner ih => exact congrArg Back.forward ih
  | minimal inner ih => exact congrArg Back.minimal ih

theorem front_eq (route : Route) : (route.front : Front α) = .queue := by
  induction route with
  | own | endpoint => rfl
  | shared inner ih => exact congrArg Front.forward ih
  | minimal inner ih => exact congrArg Front.minimal ih

theorem front_waitPop (route : Route)
    : (route.front : Front α).waitPop = ⟨.waitPop .infinite, id⟩ :=
  congrArg Front.waitPop route.front_eq

theorem front_valuePop (route : Route)
    : (route.front : Front α).valuePop = ⟨.waitPop .infinite, Answer.asReceived⟩ :=
  congrArg Front.valuePop route.front_eq

theorem back_push (route : Route) (value : α)
    : (route.back : Back α).push value = ⟨.waitPush value .infinite, Answer.asOffered⟩ :=
  congrArg (Back.push · value) route.back_eq

theorem back_close (route : Route) : (route.back : Back α).close = ⟨.close, id⟩ :=
  congrArg Back.close route.back_eq

end Route

/-- A stage that works on the ends of its queues, whatever the routes by which it holds them.
-/
structure Stage.Routed (s : Stage α) : Prop where
  take : ∃ route : Route, s.take = route.front.waitPop
  give : ∃ route : Route, s.give = route.back.push
  close : ∃ route : Route, s.close = route.back.close

namespace Stage.Routed

variable {s : Stage α}

theorem take_eq (routed : s.Routed) : s.take = ⟨.waitPop .infinite, id⟩ := by
  obtain ⟨route, take⟩ := routed.take
  rw [take, route.front_waitPop]

theorem give_eq (routed : s.Routed) (value : α)
    : s.give value = ⟨.waitPush value .infinite, Answer.asOffered⟩ := by
  obtain ⟨route, give⟩ := routed.give
  rw [give, route.back_push]

theorem close_eq (routed : s.Routed) : s.close = ⟨.close, id⟩ := by
  obtain ⟨route, close⟩ := routed.close
  rw [close, route.back_close]

end Stage.Routed

-----------------------------------------------------------------------------------------
-- One task among other programs
-----------------------------------------------------------------------------------------

/-- Programs that do what a task does: where `task?` sees one, they ask for its calls and go
on with the answers as it does.
-/
structure Program.Performs (p : Program σ α) (task? : σ → Option (Task α)) : Prop where
  asks : ∀ {program task}, task? program = some task → p.request? program = task.request?
  resumes
    : ∀ {program task},
        task? program = some task
        → ∀ answer, task? (p.resume program answer) = some (task.resume answer)

theorem Task.performs : (Task.program : Program (Task α) α).Performs some where
  asks seen := congrArg Task.request? (Option.some.inj seen)
  resumes seen answer :=
    congrArg (fun task => some (task.resume answer)) (Option.some.inj seen)

theorem Program.Performs.beside (others : Program τ α)
    : (Task.program.beside others).Performs (Sum.elim some fun _ => none) where
  asks := by
    intro program task seen
    cases program with
    | inl same =>
      obtain rfl := Option.some.inj seen
      rfl
    | inr => cases seen
  resumes := by
    intro program task seen answer
    cases program with
    | inl same =>
      obtain rfl := Option.some.inj seen
      rfl
    | inr => cases seen

namespace World

/-- The task that a thread performs, if it is seen to perform one. -/
def task? (w : World σ α) (task? : σ → Option (Task α)) (thread : Nat) : Option (Task α) :=
  (w.programs[thread]?).bind task?

/-- What holds of a task at first, is kept by every step that gives it no answer and follows
for what it does with an answer, holds of it after every run.
-/
theorem Run.performs {p : Program σ α} {see : σ → Option (Task α)} (performs : p.Performs see)
    {start w : World σ α} {history : List (Happening α)} (run : Run p start history w)
    {thread : Nat} {first : Task α} (starts : start.task? see thread = some first)
    {P : List (Happening α) → World σ α → Task α → Prop} (holds : P [] start first)
    (kept
      : ∀ {history w program queue happening after task},
          Run p start history w
          → P history w task
          → w.task? see thread = some task
          → w.Acts p program queue happening after
          → (happening.turn.thread = thread → happening.turn.progress.answer = none)
          → P (history ++ [happening]) after task)
    (resumes
      : ∀ {history w program queue happening after task answer},
          Run p start history w
          → P history w task
          → task.request? = some happening.request
          → see program = some task
          → w.Acts p program queue happening after
          → happening.turn.thread = thread
          → happening.turn.progress.answer = some answer
          → P (history ++ [happening]) after (task.resume answer))
    (waits
      : ∀ {history} {w : World σ α} {task} tick,
          P history w task → P history (w.wait tick) task)
    : ∃ task, w.task? see thread = some task ∧ P history w task := by
  refine run.induct (P := fun history w =>
    ∃ task, w.task? see thread = some task ∧ P history w task) ?_ ?_ ?_
  · exact ⟨first, starts, holds⟩
  · intro history w program queue happening after before known acts
    obtain ⟨task, runs, holds⟩ := known
    by_cases own : happening.turn.thread = thread
    · cases answered : happening.turn.progress.answer with
      | none =>
        have same : after.task? see thread = some task := by
          rw [task?, acts.program_waits answered]
          exact runs
        exact ⟨task, same, kept before holds runs acts fun _ => answered⟩
      | some answer =>
        subst own
        have sees : see program = some task := by
          simpa [task?, acts.runs] using runs
        have asks := (performs.asks sees).symm.trans acts.asks
        have goesOn : after.task? see happening.turn.thread = some (task.resume answer) := by
          rw [task?, acts.program_resumes answered]
          exact performs.resumes sees answer
        exact ⟨task.resume answer, goesOn, resumes before holds asks sees acts rfl answered⟩
    · have same : after.task? see thread = some task := by
        rw [task?, acts.program_other (Ne.symm own)]
        exact runs
      exact ⟨task, same, kept before holds runs acts fun same => absurd same own⟩
  · intro history w tick known
    obtain ⟨task, runs, holds⟩ := known
    exact ⟨task, runs, waits tick holds⟩

variable {others : Program τ α} {start w : World (Task α ⊕ τ) α} {history : List (Happening α)}
  {thread : Nat}

theorem eq_inl_of_seen {program : Task α ⊕ τ} {task : Task α}
    (seen : Sum.elim some (fun _ => none) program = some task)
    : program = .inl task := by
  cases program with
  | inl same => exact congrArg Sum.inl (Option.some.inj seen)
  | inr => cases seen

theorem programs_of_task? {task : Task α}
    (runs : w.task? (Sum.elim some fun _ => none) thread = some task)
    : w.programs[thread]? = some (.inl task) := by
  obtain ⟨program, here, seen⟩ := Option.bind_eq_some_iff.mp runs
  exact here.trans (congrArg some (eq_inl_of_seen seen))

/-- The same of a task beside other programs. -/
theorem Run.task (run : Run (Task.program.beside others) start history w) {first : Task α}
    (starts : start.programs[thread]? = some (.inl first))
    {P : List (Happening α) → World (Task α ⊕ τ) α → Task α → Prop} (holds : P [] start first)
    (kept
      : ∀ {history w program queue happening after task},
          Run (Task.program.beside others) start history w
          → P history w task
          → w.programs[thread]? = some (.inl task)
          → w.Acts (Task.program.beside others) program queue happening after
          → (happening.turn.thread = thread → happening.turn.progress.answer = none)
          → P (history ++ [happening]) after task)
    (resumes
      : ∀ {history w queue happening after task answer},
          Run (Task.program.beside others) start history w
          → P history w task
          → task.request? = some happening.request
          → w.Acts (Task.program.beside others) (.inl task) queue happening after
          → happening.turn.thread = thread
          → happening.turn.progress.answer = some answer
          → P (history ++ [happening]) after (task.resume answer))
    (waits
      : ∀ {history} {w : World (Task α ⊕ τ) α} {task} tick,
          P history w task → P history (w.wait tick) task)
    : ∃ task, w.programs[thread]? = some (.inl task) ∧ P history w task := by
  have begins : start.task? (Sum.elim some fun _ => none) thread = some first := by
    simp [task?, starts]
  have resumed
      : ∀ {history w program queue happening after task answer},
          Run (Task.program.beside others) start history w
          → P history w task
          → task.request? = some happening.request
          → Sum.elim some (fun _ => none) program = some task
          → w.Acts (Task.program.beside others) program queue happening after
          → happening.turn.thread = thread
          → happening.turn.progress.answer = some answer
          → P (history ++ [happening]) after (task.resume answer) := by
    intro history w program queue happening after task answer before holds asks seen acts
    obtain rfl := eq_inl_of_seen seen
    exact resumes before holds asks acts
  obtain ⟨task, runs, known⟩ :=
    run.performs (.beside others) begins holds
      (fun before holds runs => kept before holds (programs_of_task? runs)) resumed waits
  exact ⟨task, programs_of_task? runs, known⟩

-----------------------------------------------------------------------------------------
-- Consumers that take everything up to the end of the stream
-----------------------------------------------------------------------------------------

/-- Somebody has been told at queue `k` that the stream has ended. -/
def Ended (history : List (Happening α)) (k : Nat) : Prop :=
  ∃ turn ∈ turnsAt history k, turn.progress.answer = some (.pop (.error .closed))

/-- What a consumer knows at each point of its way: it has given its function just what it has
been handed from the queue, one by one, and it is done when it has been told of the end of the
stream. The function fails on the element number `failAt`, if on any, and the log sink may
fail in the report of a poisoned lock.
-/
def Consumes (failAt : Option Nat) (k thread : Nat) (history : List (Happening α))
    : Task α → Prop
  | .drain queue take fails count seen =>
    queue = k
    ∧ take = ⟨.waitPop .infinite, id⟩
    ∧ fails = failAt
    ∧ count = seen.length
    ∧ handed history k thread = seen
  | .finished (.drained count seen) =>
    Ended history k ∧ count = seen.length ∧ handed history k thread = seen
  | .finished (.consumerFailed seen) =>
    failAt = some seen.length ∧ handed history k thread = seen
  | .finished (.answered .sinkFailed) => Stumbled (turnsAt history k) thread
  | _ => False

theorem Ended.step {k : Nat} (ended : Ended history k) (happening : Happening α)
    : Ended (history ++ [happening]) k := by
  obtain ⟨turn, member, closed⟩ := ended
  exact ⟨turn, mem_turnsAt_step member happening, closed⟩

theorem stumbled_turnsAt_step {k thread : Nat}
    (stumbled : Stumbled (turnsAt history k) thread) (happening : Happening α)
    : Stumbled (turnsAt (history ++ [happening]) k) thread := by
  obtain ⟨turn, member, stumbles⟩ := stumbled
  exact ⟨turn, mem_turnsAt_step member happening, stumbles⟩

theorem Consumes.kept {failAt : Option Nat} {k : Nat} {task : Task α}
    (consumes : Consumes failAt k thread history task) {happening : Happening α}
    (quiet : happening.turn.thread = thread → happening.turn.progress.answer = none)
    : Consumes failAt k thread (history ++ [happening]) task := by
  have same := (learns_nothing history happening k thread fun _ => quiet).1
  match task, consumes with
  | .drain .., ⟨here, take, fails, count, seen⟩ =>
    exact ⟨here, take, fails, count, same.trans seen⟩
  | .finished (.drained ..), ⟨ended, count, seen⟩ =>
    exact ⟨ended.step happening, count, same.trans seen⟩
  | .finished (.consumerFailed ..), ⟨fails, seen⟩ => exact ⟨fails, same.trans seen⟩
  | .finished (.answered .sinkFailed), stumbled => exact stumbled_turnsAt_step stumbled happening

/-- What a consumer does with an answer: a call that may wait for ever ends with an element or
the end of the stream, so that nothing else can stop it but a failure of the log sink.
-/
theorem Consumes.resume {failAt : Option Nat} {k : Nat} {task : Task α}
    (consumes : Consumes failAt k thread history task) {happening : Happening α}
    (asks : task.request? = some happening.request) (own : happening.turn.thread = thread)
    {answer : Answer α} (answered : happening.turn.progress.answer = some answer)
    (ends
      : happening.request.operation = .waitPop .infinite
        → (∃ value, answer = .pop (.ok value))
          ∨ answer = .pop (.error .closed)
          ∨ answer = .sinkFailed ∧ Stumbled (turnsAt history k) thread)
    : Consumes failAt k thread (history ++ [happening]) (task.resume answer) := by
  match task, consumes with
  | .finished _, _ => cases asks
  | .drain _ _ _ count seen, ⟨rfl, rfl, rfl, counts, same⟩ =>
    have request := (Option.some.inj asks).symm
    have here := congrArg Request.queue request
    have step := (learns history here own answered).1
    rcases ends (congrArg Request.operation request) with
      ⟨value, rfl⟩ | rfl | ⟨rfl, stumbled⟩
    · have longer : count + 1 = (seen ++ [value]).length := by
        rw [List.length_append, counts]
        rfl
      have more : handed (history ++ [happening]) _ thread = seen ++ [value] :=
        step.trans (congrArg (· ++ [value]) same)
      simp only [Task.resume, id, Task.resumeDrain]
      split
      · rename_i fails
        exact ⟨fails.trans (congrArg some longer), more⟩
      · exact ⟨rfl, rfl, rfl, longer, more⟩
    · exact ⟨⟨happening.turn, newest_mem_turnsAt history here, answered⟩, counts,
        step.trans ((List.append_nil _).trans same)⟩
    · exact stumbled_turnsAt_step stumbled happening

/-- The function of a consumer fails on nothing but an element that a pop has got. -/
theorem Acts.popped_of_failed {w after : World (Task α ⊕ τ) α} {j : Nat} {queue : Queue α}
    {happening : Happening α} {failAt : Option Nat} {count : Nat} {earlier seen : List α}
    (acts
      : w.Acts (Task.program.beside others)
          (.inl (.drain j ⟨.waitPop .infinite, id⟩ failAt count earlier)) queue happening
          after)
    (failed
      : after.programs[happening.turn.thread]?
        = some (.inl (.finished (.consumerFailed seen))))
    : ∃ value,
        happening.turn.progress.answer = some (.pop (.ok value))
        ∧ seen = earlier ++ [value]
        ∧ after.programs
          = w.programs.set happening.turn.thread
              (.inl (.finished (.consumerFailed seen))) := by
  have programs := acts.programs
  cases answered : happening.turn.progress.answer with
  | none =>
    rw [acts.program_waits answered, acts.runs] at failed
    cases failed
  | some answer =>
    have resumed := Option.some.inj ((acts.program_resumes answered).symm.trans failed)
    simp only [answered, resumed] at programs
    simp only [Program.beside, Sum.map_inl, Task.program, Task.resume, id] at resumed
    cases answer with
    | pop result =>
      cases result with
      | error => cases resumed
      | ok value =>
        simp only [Task.resumeDrain] at resumed
        split at resumed
        · cases resumed
          exact ⟨value, rfl, rfl, programs⟩
        · cases resumed
    | _ => cases resumed

/-- A consumer that takes everything, in any run: it can only end as it should. -/
theorem Run.consumes (run : Run (Task.program.beside others) start history w) {k : Nat}
    {values : List α} (opens : start.Opens k values) {route : Route} {failAt : Option Nat}
    (starts
      : start.programs[thread]? = some (.inl (.drain k route.front.waitPop failAt 0 [])))
    : ∃ task,
        w.programs[thread]? = some (.inl task) ∧ Consumes failAt k thread history task := by
  refine run.task starts (P := fun history _ => Consumes failAt k thread history)
    ⟨rfl, route.front_waitPop, rfl, rfl, rfl⟩ ?_ ?_ fun _ => id
  · exact fun _ consumes _ _ quiet => consumes.kept quiet
  · intro history w queue happening after task answer before consumes asks acts own answered
    refine consumes.resume asks own answered fun waits => ?_
    have here : happening.request.queue = k := by
      match task, consumes with
      | .finished _, _ => cases asks
      | .drain .., ⟨rfl, _⟩ => exact (congrArg Request.queue (Option.some.inj asks)).symm
    subst here own
    exact before.waitPop_cases opens acts answered waits

end World

end Conduit
