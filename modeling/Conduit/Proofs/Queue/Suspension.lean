import Conduit.Proofs.Queue.Events
import Conduit.Proofs.Queue.Recast

/-! A thread that the log sink keeps waiting while it holds the lock.
All that it has to do under the lock is done by then, so that whatever others do meanwhile can
be put off until it has given the lock back, except for the calls that do not wait for a lock.
These are refused and leave no trace.
-/

namespace Conduit

variable {α : Type}

/-- Whether an answer tells its caller that the lock was held. -/
def Answer.isBusy : Answer α → Bool
  | .push (.error (.busy _)) | .pop (.error .busy) => true
  | _ => false

theorem Operation.isBusy_of_busy {operation : Operation α} {answer : Answer α}
    (busy : operation.busy? = some answer)
    : answer.isBusy = true := by
  cases operation <;> cases busy <;> rfl

theorem Config.isBusy_inspect (config : Config) (property : Property)
    : (config.inspect property : Answer α).isBusy = false := by
  cases property <;> rfl

/-- What a thread that is stopped in the sink is going to end with, if the event is none of a
failure: it has closed the queue or its time was up.
-/
def Call.EndsReporting (call : Call α) (answer : Answer α) : Prop :=
  (call.operation = .close ∧ answer = .done)
  ∨ (∃ value timeout,
      call.operation = .waitPush value timeout ∧ answer = .push (.error (.timedOut value)))
  ∨ (∃ timeout, call.operation = .waitPop timeout ∧ answer = .pop (.error .timedOut))

/-- Where a thread would be without the call that it waits to begin its work for. -/
def Phase.withdrawn : Phase α → Phase α
  | .arrived _ => .idle
  | phase => phase

namespace Turn

/-- The tick, the thread and its move. -/
def made (turn : Turn α) : Nat × Nat × Move α := (turn.now, turn.thread, turn.move)

/-- Whether a thread begins a call that does not wait for the lock. -/
def callsNonblocking (turn : Turn α) : Bool :=
  turn.move.called?.any fun operation => operation.busy?.isSome

/-- The turn, had it led to another queue. -/
def leaving (turn : Turn α) (queue : Queue α) : Turn α :=
  { turn with progress := { turn.progress with queue } }

end Turn

namespace Queue

-----------------------------------------------------------------------------------------
-- Runs without some of their nonblocking calls
-----------------------------------------------------------------------------------------

/-- `kept` is what is left of `late` if some nonblocking calls are not begun and the answers
in `dropped` are not given: all else is done in the same order, with the same events and
answers.
-/
structure Spares (dropped : Answer α → Bool) (late kept : List (Turn α)) : Prop where
  order : (kept.map Turn.made).Sublist (late.map Turn.made)
  others
    : (kept.filter fun turn => !turn.callsNonblocking).map Turn.made
      = (late.filter fun turn =>
          !turn.callsNonblocking && !turn.progress.answer.any dropped).map Turn.made
  replies
    : ∀ thread, repliesTo kept thread = (repliesTo late thread).filter (!dropped ·)
  emitted : emitted kept = emitted late

section
variable {dropped : Answer α → Bool} {late kept : List (Turn α)}

theorem Spares.nil : Spares dropped ([] : List (Turn α)) [] where
  order := .slnil
  others := rfl
  replies := fun _ => rfl
  emitted := rfl

theorem Spares.append {later left : List (Turn α)} (first : Spares dropped late kept)
    (second : Spares dropped later left)
    : Spares dropped (late ++ later) (kept ++ left) where
  order := by
    simp only [List.map_append]
    exact first.order.append second.order
  others := by simp only [List.filter_append, List.map_append, first.others, second.others]
  replies := by
    intro thread
    simp only [repliesTo_append, List.filter_append, first.replies, second.replies]
  emitted := by simp only [emitted_append, first.emitted, second.emitted]

theorem Spares.trans {less : List (Turn α)} (first : Spares dropped late kept)
    (second : Spares dropped kept less)
    (stay : ∀ turn ∈ kept, turn.progress.answer.any dropped = false)
    : Spares dropped late less where
  order := second.order.trans first.order
  others := by
    rw [second.others, ← first.others]
    congr 1
    apply List.filter_congr
    intro turn member
    rw [stay turn member, Bool.not_false, Bool.and_true]
  replies := by
    intro thread
    rw [second.replies, first.replies, List.filter_filter]
    simp
  emitted := second.emitted.trans first.emitted

/-- Whoever moves in what is kept does so in the whole. -/
theorem Spares.mem (spares : Spares dropped late kept) {turn : Turn α} (member : turn ∈ kept)
    : ∃ other ∈ late, other.thread = turn.thread := by
  have made : turn.made ∈ late.map Turn.made :=
    spares.order.subset (List.mem_map_of_mem member)
  obtain ⟨other, found, same⟩ := List.mem_map.mp made
  exact ⟨other, found, congrArg (fun made => made.2.1) same⟩

/-- A turn is kept unless it gets an answer that is to be dropped. -/
theorem Spares.stays {turn : Turn α} (stays : turn.progress.answer.any dropped = false)
    (queue : Queue α)
    : Spares dropped [turn] [turn.leaving queue] where
  order := List.Sublist.refl _
  others := by
    have same : (turn.leaving queue).callsNonblocking = turn.callsNonblocking := rfl
    simp only [List.filter_cons, List.filter_nil, same, stays, Bool.not_false, Bool.and_true]
    split <;> rfl
  replies := by
    intro thread
    by_cases own : turn.thread = thread
    · cases answer : turn.progress.answer with
      | none => simp [repliesTo, Turn.leaving, answer]
      | some given =>
        have stays : dropped given = false := by simpa [answer] using stays
        simp [repliesTo, Turn.leaving, answer, own, stays]
    · simp [repliesTo, Turn.leaving, own]
  emitted := rfl

/-- A turn without events can go if it begins a nonblocking call. -/
theorem Spares.uncalled {turn : Turn α} (calls : turn.callsNonblocking = true)
    (silent : turn.progress.events = []) (unanswered : turn.progress.answer = none)
    : Spares dropped [turn] [] where
  order := List.nil_sublist _
  others := by simp [calls]
  replies := by simp [repliesTo, unanswered]
  emitted := by
    rw [emitted_singleton, silent]
    rfl

/-- A turn without events can go if its answer is to be dropped. -/
theorem Spares.unanswered {turn : Turn α} {answer : Answer α}
    (answered : turn.progress.answer = some answer) (drops : dropped answer = true)
    (silent : turn.progress.events = [])
    : Spares dropped [turn] [] where
  order := List.nil_sublist _
  others := by simp [answered, drops]
  replies := by
    intro thread
    by_cases own : turn.thread = thread <;> simp [repliesTo, answered, own, drops]
  emitted := by
    rw [emitted_singleton, silent]
    rfl

end

/-- The thread has made a nonblocking call and not yet tried to take the lock. -/
def Hesitates (q : Queue α) (thread : Nat) : Prop :=
  ∃ call : Call α,
    q.phase? thread = some (.arrived call) ∧ call.operation.busy?.isSome = true

/-- The queue without the calls that some threads wait to begin their work for. -/
def withdraw (q : Queue α) (callers : List Nat) : Queue α :=
  q.recast fun thread phase => if thread ∈ callers then phase.withdrawn else phase

theorem discreet_withdrawn (callers : List Nat)
    : Discreet fun thread (phase : Phase α) =>
        if thread ∈ callers then phase.withdrawn else phase := by
  constructor
  all_goals
    intro thread
    by_cases caller : thread ∈ callers
    · simp only [caller, if_true]
      intros
      rename_i phase
      cases phase <;> rfl
    · simp only [caller, if_false, implies_true]

@[simp] theorem withdraw_nil (q : Queue α) : q.withdraw [] = q :=
  recast_eq_self fun _ => by simp

/-- Whoever has made a call and got its answer at once could as well not have made it. -/
theorem withdraw_idle {q : Queue α} {thread : Nat} {call : Call α}
    (arrived : q.phase? thread = some (.arrived call)) (callers : List Nat)
    : (q.setPhase thread .idle).withdraw callers = q.withdraw (thread :: callers) := by
  apply recast_setPhase_eq arrived
  · simp [Phase.withdrawn]
  · intro other different
    simp [different]

/-- Whoever begins a call that is withdrawn could as well not have begun it. -/
theorem withdraw_arrived {q : Queue α} {thread : Nat} {call : Call α}
    (idle : q.phase? thread = some .idle) {callers : List Nat} (caller : thread ∈ callers)
    : (q.setPhase thread (.arrived call)).withdraw callers
      = q.withdraw (callers.filter (· ≠ thread)) := by
  apply recast_setPhase_eq idle
  · simp [caller, Phase.withdrawn]
  · intro other different
    simp [different]

/-- Nobody has made a call at a queue with threads that have just come. -/
theorem withdraw_withThreads {q : Queue α} {clock : Clock} {threads : Nat} (callers : List Nat)
    : (q.withThreads clock threads).withdraw callers = q.withThreads clock threads := by
  apply recast_eq_self
  intro thread phase found
  rw [phase?_withThreads found]
  split <;> rfl

/-- Whoever hesitates after the step of another thread has done so before. -/
theorem Transition.hesitates {q : Queue α} {now thread other : Nat} {move : Move α}
    {progress : Progress α} (transition : q.Transition now thread move progress)
    (different : other ≠ thread) (after : progress.queue.Hesitates other)
    : q.Hesitates other := by
  obtain ⟨call, arrived, nonblocking⟩ := after
  rcases transition.others different with kept | ⟨_, _, _, woken⟩
  · exact ⟨call, kept.symm.trans arrived, nonblocking⟩
  · cases arrived.symm.trans woken

/-- A thread that hesitates after its own step has just called. -/
theorem Transition.called_of_hesitates {q : Queue α} {turn : Turn α}
    (transition : q.Transition turn.now turn.thread turn.move turn.progress)
    (after : turn.progress.queue.Hesitates turn.thread)
    : q.phase? turn.thread = some .idle
      ∧ turn.callsNonblocking = true
      ∧ turn.progress.events = []
      ∧ turn.progress.answer = none
      ∧ ∃ call, turn.progress.queue = q.setPhase turn.thread (.arrived call) := by
  obtain ⟨now, thread, move, progress⟩ := turn
  obtain ⟨call, arrived, nonblocking⟩ := after
  simp only at transition arrived ⊢
  cases transition with
  | begins idle =>
    obtain rfl := Phase.arrived.inj
      (Option.some.inj ((phase?_setPhase_self idle _).symm.trans arrived))
    exact ⟨idle, nonblocking, rfl, rfl, _, rfl⟩
  | enters _ here | cleansUp here =>
    cases (phase?_enterWith_self here).symm.trans arrived
  | inspects here | refuses here | stumbles _ here | ends here | sleeps here | fails here
  | failsGuarded here | failsAgain here | stirs here =>
    cases (phase?_setPhase_self here _).symm.trans arrived

/-- Whoever is refused is idle again, and nothing else has changed. -/
theorem Transition.refused {q : Queue α} {now thread : Nat} {preferred : List Nat}
    {progress : Progress α} (transition : q.Transition now thread (.enter preferred) progress)
    {answer : Answer α} (answered : progress.answer = some answer)
    (busy : answer.isBusy = true)
    : q.Hesitates thread ∧ progress = { queue := q.setPhase thread .idle, answer } := by
  cases transition with
  | enters | cleansUp => cases answered
  | inspects =>
    obtain rfl := Option.some.inj answered
    cases (Config.isBusy_inspect ..).symm.trans busy
  | refuses arrived _ refusal =>
    exact ⟨⟨_, arrived, by simp [refusal]⟩, by rw [← answered]⟩

/-- A run goes on without the nonblocking calls that it ends in, and without those whose
answers are to be dropped; by induction on the run, from its end.
-/
theorem Run.withdraw {q last : Queue α} {late : List (Turn α)} (run : Run q late last)
    (dropped : Answer α → Bool)
    (busy : ∀ {answer}, dropped answer = true → answer.isBusy = true)
    (enters
      : ∀ turn ∈ late,
          turn.progress.answer.any dropped = true → ∃ preferred, turn.move = .enter preferred)
    (callers : List Nat) (waiting : ∀ caller ∈ callers, last.Hesitates caller)
    : ∃ early kept,
        (∀ caller ∈ early, q.Hesitates caller)
        ∧ Run (q.withdraw early) kept (last.withdraw callers)
        ∧ Spares dropped late kept
        ∧ ∀ turn ∈ kept, turn.progress.answer.any dropped = false := by
  induction run generalizing callers with
  | start => exact ⟨callers, [], waiting, .start, .nil, fun _ member => by cases member⟩
  | @step history met turn before made ih =>
    have transition := Transition.of_step? made
    have enters' := fun other member => enters other (List.mem_append_left _ member)
    cases refused : turn.progress.answer.any dropped with
    | true =>
      -- Before the turn, its thread is one more that hesitates.
      obtain ⟨preferred, move⟩ :=
        enters turn (List.mem_append_right _ (List.mem_singleton_self turn)) refused
      obtain ⟨answer, answered, drops⟩ := (Option.any_eq_true ..).mp refused
      rw [move] at transition
      obtain ⟨hesitates, same⟩ := transition.refused answered (busy drops)
      have others
          : ∀ caller ∈ turn.thread :: callers, met.Hesitates caller := by
        intro caller member
        by_cases own : caller = turn.thread
        · rwa [own]
        · have later := List.mem_of_ne_of_mem own member
          exact transition.hesitates own (waiting caller later)
      obtain ⟨early, kept, hesitate, shorter, spares, stay⟩ := ih enters' _ others
      refine ⟨early, kept, hesitate, ?_, ?_, stay⟩
      · obtain ⟨call, arrived, _⟩ := hesitates
        rwa [same, withdraw_idle arrived]
      · have gone : Spares dropped [turn] [] :=
          .unanswered answered drops (by rw [same])
        simpa using spares.append gone
    | false =>
      by_cases own : turn.thread ∈ callers
      · -- The call that is withdrawn begins in this turn.
        obtain ⟨idle, calls, silent, unanswered, call, same⟩ :=
          transition.called_of_hesitates (waiting turn.thread own)
        have others
            : ∀ caller ∈ callers.filter (· ≠ turn.thread), met.Hesitates caller := by
          intro caller member
          obtain ⟨member, different⟩ := List.mem_filter.mp member
          exact transition.hesitates (of_decide_eq_true different) (waiting caller member)
        obtain ⟨early, kept, hesitate, shorter, spares, stay⟩ := ih enters' _ others
        refine ⟨early, kept, hesitate, ?_, ?_, stay⟩
        · rwa [same, withdraw_arrived idle own]
        · simpa using spares.append (.uncalled calls silent unanswered)
      · have others : ∀ caller ∈ callers, met.Hesitates caller := by
          intro caller member
          have different : caller ≠ turn.thread := fun same => own (same ▸ member)
          exact transition.hesitates different (waiting caller member)
        obtain ⟨early, kept, hesitate, shorter, spares, stay⟩ := ih enters' _ others
        have next := transition.recast (discreet_withdrawn callers) fun _ => if_neg own
        refine ⟨early, kept ++ [turn.leaving (turn.progress.queue.withdraw callers)], hesitate,
          shorter.append next.run, spares.append (.stays refused _), ?_⟩
        intro other member
        rcases List.mem_append.mp member with earlier | newest
        · exact stay other earlier
        · obtain rfl := List.mem_singleton.mp newest
          exact refused

-----------------------------------------------------------------------------------------
-- What others can do while a thread holds the lock
-----------------------------------------------------------------------------------------

/-- The queue after a thread has given the lock back, the thread being where it goes next. -/
def released (q : Queue α) (thread : Nat) (failed : Bool) (new : Phase α) : Queue α :=
  { q with holder := none, poisoned := q.poisoned || failed }.setPhase thread new

/-- A step of a thread that does not have the lock and does not get it either: it only moves
that thread, its answer is a refusal or needs no lock, and unless it is a refusal it can be
made after the lock has been given back just as well.
-/
structure Aside (q : Queue α) (now other : Nat) (move : Move α) (progress : Progress α)
    : Prop where
  moves
    : ∃ old new,
        q.phase? other = some old
        ∧ old.isInside = false
        ∧ progress.queue = q.setPhase other new
  silent : progress.events = []
  answers
    : ∀ {answer},
        progress.answer = some answer
        → ∃ preferred call,
          move = .enter preferred
          ∧ q.phase? other = some (.arrived call)
          ∧ (call.operation.busy? = some answer
            ∨ ∃ property,
              call.operation = .inspect property ∧ answer = q.config.inspect property)
  later
    : ∀ {thread},
        other ≠ thread
        → progress.answer.any Answer.isBusy = false
        → ∀ failed new,
          (q.released thread failed new).Transition now other move
            { progress with queue := progress.queue.released thread failed new }

/-- Two threads that only move can do so in either order. -/
theorem released_setPhase (q : Queue α) {thread other : Nat} (different : other ≠ thread)
    (failed : Bool) (new moved : Phase α)
    : (q.setPhase other moved).released thread failed new
      = (q.released thread failed new).setPhase other moved := by
  simp only [released, setPhase, List.set_comm _ _ different]

theorem phase?_released_other (q : Queue α) {thread other : Nat} (different : other ≠ thread)
    (failed : Bool) (new : Phase α)
    : (q.released thread failed new).phase? other = q.phase? other :=
  phase?_setPhase_other _ different new

/-- While a thread holds the lock, all steps of others are such ones. -/
theorem Orderly.aside {q : Queue α} (orderly : q.Orderly) {now thread other : Nat}
    {move : Move α} {progress : Progress α}
    (transition : q.Transition now other move progress) (held : q.holder = some thread)
    (different : other ≠ thread)
    : q.Aside now other move progress := by
  have outside {phase} (found : q.phase? other = some phase) : phase.isInside = false :=
    orderly.alone held different found
  cases transition with
  | enters _ _ free | cleansUp _ free | stumbles _ _ free => cases free.symm.trans held
  | ends inside | sleeps inside => cases outside inside
  | fails here reports | failsGuarded here reports | failsAgain here reports =>
    cases (Phase.isInside_of_atSink? reports).symm.trans (outside here)
  | begins idle =>
    refine ⟨⟨_, _, idle, rfl, rfl⟩, rfl, (fun answered => by cases answered), ?_⟩
    intro thread different _ failed new
    simp only [released_setPhase q different]
    exact .begins ((phase?_released_other q different failed new).trans idle)
  | inspects arrived asks =>
    refine ⟨⟨_, _, arrived, rfl, rfl⟩, rfl, fun answered => ?_, ?_⟩
    · obtain rfl := Option.some.inj answered
      exact ⟨_, _, rfl, arrived, Or.inr ⟨_, asks, rfl⟩⟩
    · intro thread different _ failed new
      simp only [released_setPhase q different]
      exact .inspects ((phase?_released_other q different failed new).trans arrived) asks
  | refuses arrived _ busy =>
    refine ⟨⟨_, _, arrived, rfl, rfl⟩, rfl, fun answered => ?_, ?_⟩
    · obtain rfl := Option.some.inj answered
      exact ⟨_, _, rfl, arrived, Or.inl busy⟩
    · intro _ _ spared
      simp [Operation.isBusy_of_busy busy] at spared
  | stirs parked =>
    refine ⟨⟨_, _, parked, rfl, rfl⟩, rfl, (fun answered => by cases answered), ?_⟩
    intro thread different _ failed new
    simp only [released_setPhase q different]
    exact .stirs ((phase?_released_other q different failed new).trans parked)

/-- How a thread gives the lock back depends on nothing but where it is. -/
theorem Transition.resumes {q : Queue α} {now thread : Nat} {move : Move α}
    {progress : Progress α} (transition : q.Transition now thread move progress)
    {phase : Phase α} (found : q.phase? thread = some phase) (inside : phase.isInside = true)
    : ∃ failed new answer,
        progress = { queue := q.released thread failed new, answer }
        ∧ ∀ {other : Queue α},
          other.phase? thread = some phase
          → other.Transition now thread move
              { queue := other.released thread failed new, answer } := by
  have healthy
      : ∀ (other : Queue α) (new : Phase α),
          { other with holder := none }.setPhase thread new
          = other.released thread false new := by
    intro other new
    simp only [released, Bool.or_false]
  have failed
      : ∀ (other : Queue α) (new : Phase α),
          { other with holder := none, poisoned := true }.setPhase thread new
          = other.released thread true new := by
    intro other new
    simp only [released, Bool.or_true]
  cases transition with
  | ends here =>
    obtain rfl := Option.some.inj (found.symm.trans here)
    refine ⟨false, .idle, _, by rw [healthy], fun there => ?_⟩
    rw [← healthy]
    exact .ends there
  | sleeps here =>
    obtain rfl := Option.some.inj (found.symm.trans here)
    refine ⟨false, .parked .., none, by rw [healthy], fun there => ?_⟩
    rw [← healthy]
    exact .sleeps there
  | fails here reports fresh careless =>
    obtain rfl := Option.some.inj (found.symm.trans here)
    refine ⟨true, .idle, _, by rw [failed], fun there => ?_⟩
    rw [← failed]
    exact .fails there reports fresh careless
  | failsGuarded here reports fresh careful =>
    obtain rfl := Option.some.inj (found.symm.trans here)
    refine ⟨true, .failing _, none, by rw [failed], fun there => ?_⟩
    rw [← failed]
    exact .failsGuarded there reports fresh careful
  | failsAgain here reports unwinding =>
    obtain rfl := Option.some.inj (found.symm.trans here)
    refine ⟨false, .idle, _, by rw [healthy], fun there => ?_⟩
    rw [← healthy]
    exact .failsAgain there reports unwinding
  | begins here | inspects here | refuses here | cleansUp here | stirs here =>
    obtain rfl := Option.some.inj (found.symm.trans here)
    cases inside
  | enters sleptOn here | stumbles sleptOn here =>
    obtain rfl := Option.some.inj (found.symm.trans here)
    cases sleptOn <;> cases inside

section
variable {q last : Queue α} {late : List (Turn α)} {thread : Nat}

/-- While a thread holds the lock, others only move themselves; by induction on their steps.
-/
theorem Run.aside (run : Run q late last) (orderly : q.Orderly) (held : q.holder = some thread)
    (others : ∀ turn ∈ late, turn.thread ≠ thread)
    : last = { q with phases := last.phases }
      ∧ last.phase? thread = q.phase? thread
      ∧ emitted late = [] := by
  induction run with
  | start => exact ⟨rfl, rfl, rfl⟩
  | @step history met turn before made ih =>
    obtain ⟨same, stays, silent⟩ :=
      ih fun turn member => others turn (List.mem_append_left _ member)
    have different := others turn (List.mem_append_right _ (List.mem_singleton_self turn))
    have still : met.holder = some thread := by rw [same]; exact held
    have aside := (before.elements orderly).1.aside (.of_step? made) still different
    obtain ⟨old, new, _, _, moved⟩ := aside.moves
    refine ⟨?_, ?_, ?_⟩
    · rw [moved, same]
      rfl
    · rw [moved, phase?_setPhase_other _ (Ne.symm different)]
      exact stays
    · rw [emitted_append, emitted_singleton, silent, aside.silent]
      rfl

/-- So does the step that comes after them. -/
theorem Run.then_aside (run : Run q late last) (orderly : q.Orderly)
    (held : q.holder = some thread) (others : ∀ turn ∈ late, turn.thread ≠ thread)
    {turn : Turn α}
    (made : last.step? turn.now turn.thread turn.move = some turn.progress)
    (different : turn.thread ≠ thread)
    : last.Aside turn.now turn.thread turn.move turn.progress := by
  have still : last.holder = some thread := by
    rw [(run.aside orderly held others).1]
    exact held
  exact (run.elements orderly).1.aside (.of_step? made) still different

/-- Whoever gets an answer while another thread holds the lock has tried to take the lock. -/
theorem Run.enters_of_answered (run : Run q late last) (orderly : q.Orderly)
    (held : q.holder = some thread) (others : ∀ turn ∈ late, turn.thread ≠ thread)
    {turn : Turn α} (member : turn ∈ late) {answer : Answer α}
    (answered : turn.progress.answer = some answer)
    : ∃ preferred, turn.move = .enter preferred := by
  obtain ⟨early, met, later, split, before, made, _⟩ := run.split member
  have aside := before.then_aside orderly held
    (fun other earlier => others other (split ▸ List.mem_append_left _ earlier)) made
    (others turn member)
  obtain ⟨preferred, _, move, _⟩ := aside.answers answered
  exact ⟨preferred, move⟩

/-- A run of others in which nobody is refused can be put off until the lock has been given
back; by induction on its steps.
-/
theorem Run.putOff (run : Run q late last) (orderly : q.Orderly)
    (held : q.holder = some thread) (others : ∀ turn ∈ late, turn.thread ≠ thread)
    (unrefused : ∀ turn ∈ late, turn.progress.answer.any Answer.isBusy = false)
    (failed : Bool) (new : Phase α)
    : ∃ delayed,
        Run (q.released thread failed new) delayed (last.released thread failed new)
        ∧ Spares Answer.isBusy late delayed := by
  induction run with
  | start => exact ⟨[], .start, .nil⟩
  | @step history met turn before made ih =>
    obtain ⟨delayed, rest, spares⟩ :=
      ih (fun turn member => others turn (List.mem_append_left _ member))
        fun turn member => unrefused turn (List.mem_append_left _ member)
    have newest : turn ∈ history ++ [turn] :=
      List.mem_append_right _ (List.mem_singleton_self turn)
    have different := others turn newest
    have stays := unrefused turn newest
    have aside := before.then_aside orderly held
      (fun other earlier => others other (List.mem_append_left _ earlier)) made different
    have next := aside.later different stays failed new
    exact ⟨_, rest.append next.run, spares.append (.stays stays _)⟩

end

-----------------------------------------------------------------------------------------
-- The suspension
-----------------------------------------------------------------------------------------

/-- Work that reports something ends with an answer, and keeps the lock until then. Where the
thread does not get to its work, it holds the lock until the sink fails under it.
-/
theorem Orderly.answers_of_events {q : Queue α} (orderly : q.Orderly) {now thread : Nat}
    {move : Move α} {progress : Progress α}
    (transition : q.Transition now thread move progress) (emits : progress.events ≠ [])
    : (∃ call answer,
        progress.queue.phase? thread
          = some (.inside call (.answered answer) (canFail progress.events)))
      ∨ ∃ sleptOn call,
        progress.queue.phase? thread = some (.stumbling sleptOn call)
        ∧ progress.events = [.lockPoisoned] := by
  have after := orderly.transition transition
  cases transition with
  | @enters preferred call sleptOn door =>
    have inside
        : (q.enterWith thread call preferred (q.work now call sleptOn)).queue.phase? thread
          = some (entered call (q.work now call sleptOn)) :=
      phase?_enterWith_self door
    unfold entered at inside
    cases result : (q.work now call sleptOn).result with
    | answered answer =>
      rw [result] at inside
      exact Or.inl ⟨call, answer, inside⟩
    | waits side time =>
      -- Whoever goes to sleep does so at an open queue, and in silence.
      have isOpen :=
        (worked_of_work orderly.sound now call sleptOn (orderly.came door)).1.waits result
      cases orderly.reports now door with
      | alarm _ _ _ closed | closing _ _ _ closed => cases isOpen.symm.trans closed
      | expiry _ _ _ _ _ gives =>
        rw [result] at gives
        cases gives
      | nothing events => exact absurd events emits
  | @cleansUp preferred call failing =>
    let late := { call with alreadyFailing := true }
    have inside
        : (q.enterWith thread late preferred q.failureWork).queue.phase? thread
          = some (entered late q.failureWork) :=
      phase?_enterWith_self failing
    unfold entered at inside
    rw [(worked_of_failureWork orderly.sound).2.2.1] at inside
    exact Or.inl ⟨_, .sinkFailed, inside⟩
  | stumbles sleptOn door =>
    exact Or.inr ⟨sleptOn, _, phase?_setPhase_self door _, rfl⟩
  | _ => exact absurd rfl emits

/-- The thread that took the lock in `entry`, after the run `history` from `start` to `q`, is
stopped in the sink while others make the steps `others`, which lead to `held`. None of them
gets more than a refusal or what needs no lock. Once the thread goes on, which is by the move
`onward`, its answer is the one it had when it was stopped, and the queue is the one that a run
leads to in which nobody does anything between the two steps of the thread and the calls that
were refused are not made.
-/
structure Suspended (start : Queue α) (values : List α) (history : List (Turn α)) (q : Queue α)
    (entry : Turn α) (onward : Move α) (answer : Option (Answer α)) (others : List (Turn α))
    (held : Queue α)
    : Prop where
  stopped
    : held = { entry.progress.queue with phases := held.phases }
      ∧ held.holder = some entry.thread
      ∧ held.phase? entry.thread = entry.progress.queue.phase? entry.thread
      ∧ emitted others = []
  pushes
    : ∀ {now other call value preferred},
        held.phase? other = some (.arrived call)
        → call.operation = .nonblockingPush value
        → held.step? now other (.enter preferred)
          = some
              { queue := held.setPhase other .idle
                answer := some (.push (.error (.busy value))) }
  pops
    : ∀ {now other call preferred},
        held.phase? other = some (.arrived call)
        → call.operation = .nonblockingPop
        → held.step? now other (.enter preferred)
          = some
              { queue := held.setPhase other .idle
                answer := some (.pop (.error .busy)) }
  inspections
    : ∀ {now other call property preferred},
        held.phase? other = some (.arrived call)
        → call.operation = .inspect property
        → held.step? now other (.enter preferred)
          = some
              { queue := held.setPhase other .idle
                answer := some (held.config.inspect property) }
  waits
    : ∀ {now other move progress given},
        held.step? now other move = some progress
        → other ≠ entry.thread
        → progress.answer = some given
        → ∃ preferred call,
          move = .enter preferred
          ∧ held.phase? other = some (.arrived call)
          ∧ (call.operation.busy? = some given
            ∨ ∃ property,
              call.operation = .inspect property ∧ given = held.config.inspect property)
  result
    : ∀ now,
        ∃ ended,
          held.step? now entry.thread onward = some ended
          ∧ ended.answer = answer
          ∧ ended.events = []
  serial
    : ∀ {resume : Turn α},
        resume.thread = entry.thread
        → held.step? resume.now resume.thread resume.move = some resume.progress
        → ∃ callers earlier delayed freed,
          (∀ caller ∈ callers, q.Hesitates caller)
          ∧ Spares (fun _ => false) history earlier
          ∧ Spares Answer.isBusy others delayed
          ∧ ∀ {rest last},
            Run resume.progress.queue rest last
            → Run start
                (earlier
                  ++ entry.leaving (entry.progress.queue.withdraw callers)
                  :: resume.leaving freed
                  :: (delayed ++ rest))
                last
  order
    : ∀ {more last},
        Run held more last
        → values ++ (storedBy (history ++ entry :: (others ++ more))).map Prod.snd
          = (takenBy (history ++ entry :: (others ++ more))).map Prod.snd
            ++ last.state.ring.toList
  accounts
    : ∀ {more last},
        Run held more last
        → ∀ other, last.Booked (history ++ entry :: (others ++ more)) other
  attended
    : ∀ {more last},
        Run held more last
        → ∀ side,
          last.Attended side ∧ (last.state.closed = true → last.parked side = 0)

section
variable {slotBytes threads : Nat} {clock : Clock} {config : Config} {values : List α}
  {fresh q held : Queue α}
  {history others : List (Turn α)}

/-- The event of a thread that the sink can stop is a closing or an expired wait, and it is
what its answer tells.
-/
theorem Known.endsReporting {M : Fifo α → Prop} {q : Queue α} (known : q.Known M)
    {thread : Nat} {call : Call α} {answer : Answer α}
    (inside : q.phase? thread = some (.inside call (.answered answer) true))
    : call.EndsReporting answer := by
  obtain ⟨given, same, reported⟩ := known.orderly.answered_of_reporting inside
  obtain rfl := Outcome.answered.inj same
  rcases known.decided inside with ⟨met, now, _, served, _⟩ | ⟨_, silent, _⟩
  · rcases Fifo.reported_cases served reported with closes | ⟨_, _, timedOut⟩
    · exact Or.inl closes
    · exact Or.inr timedOut
  · cases silent

/-- All that happens while a thread is stopped under the lock could as well happen afterwards,
or not at all; witness: the calls that are refused are withdrawn, from the end of the run to
its beginning, and what is left commutes with giving the lock back.
-/
theorem Run.serial
    (created : (ofConfigAndItems slotBytes config (.ofList values)).result = .ok fresh)
    (run : Run (fresh.withThreads clock threads) history q) {entry resume : Turn α}
    (made : q.step? entry.now entry.thread entry.move = some entry.progress)
    {phase : Phase α} (found : entry.progress.queue.phase? entry.thread = some phase)
    (inside : phase.isInside = true) (meanwhile : Run entry.progress.queue others held)
    (different : ∀ turn ∈ others, turn.thread ≠ entry.thread)
    (own : resume.thread = entry.thread)
    (resumes : held.step? resume.now resume.thread resume.move = some resume.progress)
    : ∃ callers earlier delayed freed,
        (∀ caller ∈ callers, q.Hesitates caller)
        ∧ Spares (fun _ => false) history earlier
        ∧ Spares Answer.isBusy others delayed
        ∧ ∀ {rest last},
          Run resume.progress.queue rest last
          → Run (fresh.withThreads clock threads)
              (earlier
                ++ entry.leaving (entry.progress.queue.withdraw callers)
                :: resume.leaving freed
                :: (delayed ++ rest))
              last := by
  have orderly := run.orderly created
  have enters := Transition.of_step? made
  have begun := orderly.transition enters
  have holds := (begun.fits found).holder inside
  obtain ⟨same, stays, _⟩ := meanwhile.aside begun holds different
  -- Without the calls that are refused while the thread is stopped.
  have refusals
      : ∀ turn ∈ others,
          turn.progress.answer.any Answer.isBusy = true
          → ∃ preferred, turn.move = .enter preferred := by
    intro turn member refused
    obtain ⟨answer, answered, _⟩ := (Option.any_eq_true ..).mp refused
    exact meanwhile.enters_of_answered begun holds different member answered
  obtain ⟨callers, kept, hesitate, shorter, spared, unrefused⟩ :=
    meanwhile.withdraw Answer.isBusy id refusals [] fun _ member => by cases member
  rw [withdraw_nil] at shorter
  have stranger : entry.thread ∉ callers := by
    intro member
    obtain ⟨call, arrived, _⟩ := hesitate _ member
    obtain rfl := Option.some.inj (found.symm.trans arrived)
    cases inside
  have before : ∀ caller ∈ callers, q.Hesitates caller := by
    intro caller member
    exact enters.hesitates (fun same => stranger (same ▸ member)) (hesitate caller member)
  -- Without their beginnings before the thread took the lock.
  obtain ⟨_, earlier, _, first, spares, _⟩ :=
    run.withdraw (fun _ => false) (fun drops => by cases drops)
      (fun turn _ drops => by simp at drops) callers before
  rw [withdraw_withThreads] at first
  have next := enters.recast (discreet_withdrawn callers) fun _ => if_neg stranger
  have reached
      : Run (fresh.withThreads clock threads)
          (earlier ++ [entry.leaving (entry.progress.queue.withdraw callers)])
          (entry.progress.queue.withdraw callers) :=
    first.append next.run
  have calm := reached.orderly created
  have there : (entry.progress.queue.withdraw callers).phase? entry.thread = some phase := by
    simp [Queue.withdraw, found, stranger]
  -- The thread gives the lock back at once, and the others go on then.
  have returns := Transition.of_step? resumes
  rw [own] at returns
  obtain ⟨failed, new, answer, progress, again⟩ := returns.resumes (stays.trans found) inside
  have away : ∀ turn ∈ kept, turn.thread ≠ entry.thread := by
    intro turn member
    obtain ⟨other, found, same⟩ := spared.mem member
    exact same ▸ different other found
  obtain ⟨delayed, late, spares'⟩ :=
    shorter.putOff calm ((calm.fits there).holder inside) away unrefused failed new
  have freed := again there
  refine ⟨callers, earlier, delayed,
    (entry.progress.queue.withdraw callers).released entry.thread failed new, before, spares,
    spared.trans spares' unrefused, ?_⟩
  intro rest last onward
  rw [progress] at onward
  have whole := (reached.append freed.run).append (late.append onward)
  simpa only [Turn.leaving, own, progress, List.append_assoc, List.cons_append,
    List.nil_append] using whole

/-- Whatever is done while a thread is stopped in the sink could as well be done when it has
gone on, whichever way it goes on.
-/
theorem Run.suspended
    (created : (ofConfigAndItems slotBytes config (.ofList values)).result = .ok fresh)
    (run : Run (fresh.withThreads clock threads) history q) {entry : Turn α}
    (made : q.step? entry.now entry.thread entry.move = some entry.progress)
    {phase : Phase α} (found : entry.progress.queue.phase? entry.thread = some phase)
    (inside : phase.isInside = true) {onward : Move α} {answer : Option (Answer α)}
    (ends
      : ∀ {met : Queue α} now,
          met.phase? entry.thread = some phase
          → ∃ ended,
            met.step? now entry.thread onward = some ended
            ∧ ended.answer = answer
            ∧ ended.events = [])
    (meanwhile : Run entry.progress.queue others held)
    (different : ∀ turn ∈ others, turn.thread ≠ entry.thread)
    : Suspended (fresh.withThreads clock threads) values history q entry onward answer others
        held := by
  have enters := Transition.of_step? made
  have begun := (run.orderly created).transition enters
  have holds := (begun.fits found).holder inside
  obtain ⟨same, stays, silent⟩ := meanwhile.aside begun holds different
  have still : held.holder = some entry.thread := by
    rw [same]
    exact holds
  have whole
      : ∀ {more last},
          Run held more last
          → Run (fresh.withThreads clock threads) (history ++ entry :: (others ++ more))
              last := by
    intro more last later
    have next := (run.append enters.run).append (meanwhile.append later)
    simpa only [List.append_assoc, List.singleton_append] using next
  refine ⟨⟨same, still, stays, silent⟩, ?pushes, ?pops, ?inspections, ?waits,
    fun now => ends now (stays.trans found), ?serial, fun later => (whole later).order created,
    fun later => (whole later).booked created, ?attended⟩
  case pushes =>
    intro now other call value preferred arrived asks
    have refuses : held.Transition now other (.enter preferred) _ :=
      .refuses arrived still (by rw [asks]; rfl)
    exact refuses.step?
  case pops =>
    intro now other call preferred arrived asks
    have refuses : held.Transition now other (.enter preferred) _ :=
      .refuses arrived still (by rw [asks]; rfl)
    exact refuses.step?
  case inspections =>
    intro now other call property preferred arrived asks
    have inspects : held.Transition now other (.enter preferred) _ := .inspects arrived asks
    exact inspects.step?
  case waits =>
    intro now other move progress given step away answered
    have orderly := (meanwhile.elements begun).1
    exact (orderly.aside (.of_step? step) still away).answers answered
  case serial =>
    intro resume own resumes
    exact run.serial created made found inside meanwhile different own resumes
  case attended =>
    intro more last later side
    refine ⟨(whole later).attended created side, fun closed => ?_⟩
    have nobody := ((whole later).tracked created side).silent closed
    have few := last.parked_le_joined side
    omega

/-- Whatever is done while a thread is stopped in the sink could as well be done when it has
gone on; witness: whoever is refused has changed nothing, and everybody else waits. A thread
that is stopped after its work ends its call, and one that is stopped in the report of a
poisoned lock, with the sink about to fail, has no work done.
-/
theorem suspension_serializes
    (created : (ofConfigAndItems slotBytes config (.ofList values)).result = .ok fresh)
    (run : Run (fresh.withThreads clock threads) history q) (entry : Turn α)
    (made : q.step? entry.now entry.thread entry.move = some entry.progress)
    (emits : entry.progress.events ≠ [])
    : (∃ call answer reporting,
        entry.progress.queue.phase? entry.thread
            = some (.inside call (.answered answer) reporting)
        ∧ (reporting = canFail entry.progress.events)
        ∧ (reporting = true → call.EndsReporting answer)
        ∧ ∀ {others held},
          Run entry.progress.queue others held
          → (∀ turn ∈ others, turn.thread ≠ entry.thread)
          → Suspended (fresh.withThreads clock threads) values history q entry .leave
              (some answer) others held)
      ∨ ∃ sleptOn call,
        entry.progress.queue.phase? entry.thread = some (.stumbling sleptOn call)
        ∧ entry.progress.events = [.lockPoisoned]
        ∧ ∀ {others held},
          Run entry.progress.queue others held
          → (∀ turn ∈ others, turn.thread ≠ entry.thread)
          → Suspended (fresh.withThreads clock threads) values history q entry .fail
              (if failureBegan call.alreadyFailing true && call.operation.closesOnFailure
                then none
                else some .sinkFailed)
              others held := by
  have known := run.known_of_created created
  have enters := Transition.of_step? made
  have begun := known.transition Fifo.stable_true enters
  rcases known.orderly.answers_of_events enters emits with
    ⟨call, answer, inside⟩ | ⟨sleptOn, call, stumbling, alarm⟩
  · refine Or.inl ⟨call, answer, _, inside, rfl, fun reporting => ?_,
      fun meanwhile different => ?_⟩
    · rw [reporting] at inside
      exact begun.endsReporting inside
    · refine run.suspended created made inside rfl (fun {met} now there => ?_) meanwhile
        different
      have ends : met.Transition now entry.thread .leave _ := .ends there
      exact ⟨_, ends.step?, rfl, rfl⟩
  · refine Or.inr ⟨sleptOn, call, stumbling, alarm, fun meanwhile different => ?_⟩
    refine run.suspended created made stumbling rfl (fun now there => ?_) meanwhile different
    refine ⟨_, step?_fail now there rfl, ?_, ?_⟩ <;> simp only [finish] <;> split <;> rfl

end

/-- A consumer is about to give up its wait, and another one has called. -/
def beforeSuspension : List (Nat × Nat × Move Nat) :=
  [(0, 0, .call (.waitPop (.after 0)) false), (0, 1, .call .nonblockingPop false)]

/-- The second consumer is refused and asks for the capacity, and a producer waits. -/
def duringSuspension : List (Nat × Nat × Move Nat) :=
  [(1, 1, .enter []), (1, 2, .call (.tryPush 9) false),
    (1, 1, .call (.inspect .capacity) false), (1, 1, .enter [])]

/-- The wait that is given up stays so, although the push that has come meanwhile succeeds. -/
theorem suspension_serializes_heldExpiry
    : let start := (ofRing (.ofCapacity 1) (Ring.empty 1)).withThreads .ofWords 3
      let before := start.play beforeSuspension
      ∃ progress,
        before.2.step? 0 0 (.enter []) = some progress
        ∧ progress.events = [.popExpired none]
        ∧ let during := progress.queue.play duringSuspension
          let after := during.2.play [(2, 0, .leave), (2, 2, .enter []), (2, 2, .leave)]
          repliesTo during.1 1 = [.pop (.error .busy), .count 1]
          ∧ repliesTo after.1 0 = [.pop (.error .timedOut)]
          ∧ repliesTo after.1 2 = [.push (.ok ())]
          ∧ Suspended start [] before.1 before.2 ⟨0, 0, .enter [], progress⟩ .leave
              (some (.pop (.error .timedOut))) during.1 during.2 := by
  have created
      : (ofConfigAndItems 8 (.ofCapacity 1) (.ofList ([] : List Nat))).result
        = .ok (ofRing (.ofCapacity 1) (Ring.empty 1)) := rfl
  have enters
      : (((ofRing (.ofCapacity 1) (Ring.empty 1)).withThreads .ofWords 3).play
          beforeSuspension).2.step? 0 0 (.enter [])
        = some _ := rfl
  rcases suspension_serializes created (.of_play _ beforeSuspension) ⟨0, 0, .enter [], _⟩ enters
      (by decide) with
    ⟨call, answer, reporting, inside, _, _, suspended⟩ | ⟨_, _, stumbling, _⟩
  case inr => cases stumbling
  obtain rfl : answer = .pop (.error .timedOut) := by
    cases inside
    rfl
  refine ⟨_, rfl, rfl, rfl, rfl, rfl, suspended (.of_play _ duringSuspension) ?_⟩
  intro turn member
  have moves := mem_of_play member
  simp only [duringSuspension, List.mem_cons, List.not_mem_nil, or_false, Prod.mk.injEq]
    at moves
  rcases moves with ⟨_, own, _⟩ | ⟨_, own, _⟩ | ⟨_, own, _⟩ | ⟨_, own, _⟩ <;> simp [own]

end Queue

end Conduit
