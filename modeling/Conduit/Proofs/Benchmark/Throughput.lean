import Conduit.Proofs.Benchmark.Seats

/-! The throughput benchmark.
The numbers arrive one after the other and all of them do, since the consumer is told of the
end only when the producer has closed the queue after the last one; and somebody can always
go on, since the two threads never sleep at the queue together.
-/

namespace Conduit.Benchmark

open World

/-- What continues the first numbers is the next one. -/
theorem eq_of_range_append_isPrefix {value next stop : Nat}
    (continues : List.range next ++ [value] <+: List.range stop)
    : value = next := by
  have within : next < (List.range next ++ [value]).length := by simp
  simpa using continues.getElem within

theorem range_isPrefix {next stop : Nat} (within : next ≤ stop)
    : List.range next <+: List.range stop := by
  rw [List.prefix_iff_eq_take, List.length_range, List.take_range, Nat.min_eq_left within]

/-- The world in which the throughput benchmark begins. -/
def throughputStart (settings : Settings) : World Role Nat :=
  opening settings.capacity ["throughput"] [.sender 0 settings.iterations, .receiver 0]

section
variable {settings : Settings} {history : List (Happening Nat)} {w : World Role Nat}

theorem prepared_throughput (positive : 0 < settings.capacity)
    : Prepared (throughputStart settings) := by
  refine prepared_opening positive _ fun {thread seat role} runs sits => ?_
  match thread with
  | 0 | 1 =>
    obtain rfl := Option.some.inj runs
    exact (Option.some.inj sits).symm
  | _ + 2 => cases runs

theorem opens_throughput (positive : 0 < settings.capacity)
    : (throughputStart settings).Opens 0 [] :=
  (prepared_throughput positive).opens Nat.one_pos

theorem sender_starts
    : (throughputStart settings).programs[0]? = some (.sender 0 settings.iterations) := rfl

theorem receiver_starts
    : (throughputStart settings).programs[1]? = some (.receiver 0) := rfl

-----------------------------------------------------------------------------------------
-- The producer
-----------------------------------------------------------------------------------------

/-- What the producer has been told to be stored, by its role. -/
def Sends (stop : Nat) (history : List (Happening Nat)) (w : World Role Nat) : Role → Prop
  | .sender next last =>
    last = stop ∧ next ≤ stop ∧ confirmed history 0 0 = List.range next
  | .finished total =>
    total = stop ∧ confirmed history 0 0 = List.range stop ∧ w.ClosedAt 0
  | _ => False

theorem sends (positive : 0 < settings.capacity)
    (run : Run Role.program (throughputStart settings) history w)
    : ∃ role, w.programs[0]? = some role ∧ Sends settings.iterations history w role := by
  have prepared := prepared_throughput positive
  have opens := opens_throughput positive
  refine run.thread sender_starts (P := Sends settings.iterations) ⟨rfl, Nat.zero_le _, rfl⟩
    ?passes ?resumes ?waits
  case passes =>
    intro history w program queue happening after role before holds acts quiet
    have same := (learns_nothing history happening 0 0 fun _ => quiet).2.1
    cases role with
    | sender => rwa [Sends, same]
    | finished =>
      obtain ⟨total, sent, closed⟩ := holds
      exact ⟨total, same.trans sent, before.closedAt opens acts closed⟩
    | _ => exact holds.elim
  case resumes =>
    intro history w role queue happening after answer before holds acts next own answered
    cases role with
    | sender number stop =>
      obtain ⟨same, _, sent⟩ := holds
      have resumed
          : Role.program.resume (.sender number stop) answer
            = if number < stop then Role.afterPush number (.sender (number + 1) stop) answer
              else .finished number := rfl
      rcases prepared.sending_cases before acts next own answered rfl with
        ⟨more, rfl, told⟩ | ⟨past, told, closed⟩
      · rw [resumed, if_pos more]
        refine ⟨same, same ▸ more, ?_⟩
        rw [told, sent, List.range_succ]
      · obtain rfl : number = stop := by omega
        rw [resumed, if_neg (Nat.lt_irrefl _)]
        exact ⟨same, told.trans (same ▸ sent), closed⟩
    | finished => cases acts.asks
    | _ => exact holds.elim
  case waits =>
    intro history w role tick holds
    cases role <;> exact holds

/-- What the producer has stored are first numbers, and all of them once the queue is
closed.
-/
theorem stored_range (positive : 0 < settings.capacity)
    (run : Run Role.program (throughputStart settings) history w)
    : storedIn history 0 0 <+: List.range settings.iterations
      ∧ (w.ClosedAt 0 → storedIn history 0 0 = List.range settings.iterations) := by
  have prepared := prepared_throughput positive
  have opens := opens_throughput positive
  obtain ⟨role, runs, sends⟩ := sends positive run
  cases role with
  | sender number stop =>
    obtain ⟨same, within, sent⟩ := sends
    by_cases more : number < stop
    · have stored := run.stored_offering opens sender_starts runs
      have offers
          : (Role.program.request? (.sender number stop)).bind
              (fun request => request.operation.offered?)
            = some number :=
        (Role.offered?_sending number stop).trans (if_pos more)
      rw [sent, offers, Option.toList_some, ← List.range_succ] at stored
      refine ⟨stored.trans (range_isPrefix (same ▸ more)), fun closed => ?_⟩
      -- The queue is open, since the producer still has something to send.
      obtain ⟨mine, here, closing⟩ := prepared.closing run closed
      obtain rfl := Option.some.inj (runs.symm.trans here)
      exact absurd more (Nat.not_lt.mpr (of_decide_eq_true closing))
    · have told := run.told_stored opens sender_starts runs fun {request} asks _ => by
        obtain rfl := Option.some.inj asks
        exact (Role.offered?_sending number stop).trans (if_neg more)
      obtain rfl : number = settings.iterations := by omega
      rw [told, sent]
      exact ⟨List.prefix_rfl, fun _ => rfl⟩
  | finished total =>
    obtain ⟨_, sent, _⟩ := sends
    rw [run.told_stored opens sender_starts runs nofun, sent]
    exact ⟨List.prefix_rfl, fun _ => rfl⟩
  | _ => exact sends.elim

-----------------------------------------------------------------------------------------
-- The consumer
-----------------------------------------------------------------------------------------

/-- What the consumer has been handed, by its role. -/
def Receives (stop : Nat) (history : List (Happening Nat)) (w : World Role Nat) : Role → Prop
  | .receiver expected => handed history 0 1 = List.range expected
  | .finished total => total = stop ∧ handed history 0 1 = List.range stop ∧ w.ClosedAt 0
  | _ => False

theorem receives (positive : 0 < settings.capacity)
    (run : Run Role.program (throughputStart settings) history w)
    : ∃ role, w.programs[1]? = some role ∧ Receives settings.iterations history w role := by
  have prepared := prepared_throughput positive
  have opens := opens_throughput positive
  refine run.thread receiver_starts (P := Receives settings.iterations) rfl
    ?passes ?resumes ?waits
  case passes =>
    intro history w program queue happening after role before holds acts quiet
    have same := (learns_nothing history happening 0 1 fun _ => quiet).1
    cases role with
    | receiver => rwa [Receives, same]
    | finished =>
      obtain ⟨total, received, closed⟩ := holds
      exact ⟨total, same.trans received, before.closedAt opens acts closed⟩
    | _ => exact holds.elim
  case resumes =>
    intro history w role queue happening after answer before holds acts next own answered
    cases role with
    | receiver expected =>
      have received : handed history 0 1 = List.range expected := holds
      rcases prepared.popping_cases before acts own answered rfl with
        ⟨value, rfl, told⟩ | ⟨rfl, told, closed, ended⟩
      · have within : handed (history ++ [happening]) 0 1 <+: List.range settings.iterations :=
          (next.received opens (prepared.channel next 0) receiver_starts).trans
            (stored_range positive next).1
        rw [told, received] at within
        have inTurn := eq_of_range_append_isPrefix within
        have resumed
            : Role.program.resume (.receiver expected) (.pop (.ok value))
              = .receiver (expected + 1) := if_pos inTurn
        rw [resumed, Receives, told, received, inTurn, List.range_succ]
      · have all := next.received_all opens (prepared.channel next 0) receiver_starts ended
        rw [(stored_range positive next).2 closed] at all
        refine ⟨?_, all, closed⟩
        have counts := congrArg List.length (all.symm.trans (told.trans received))
        simpa using counts.symm
    | finished => cases acts.asks
    | _ => exact holds.elim
  case waits =>
    intro history w role tick holds
    cases role <;> exact holds

-----------------------------------------------------------------------------------------
-- Both together
-----------------------------------------------------------------------------------------

/-- The two threads are never stuck. If they slept both, the queue would be full and empty,
and if one of them had finished, it would be closed.
-/
theorem throughput_goesOn (positive : 0 < settings.capacity)
    (run : Run Role.program (throughputStart settings) history w)
    (unfinished : ∃ role ∈ w.programs, role.isFinished = false)
    : ¬ w.Blocked Role.program := by
  intro blocked
  have prepared := prepared_throughput positive
  obtain ⟨first, producing, sends⟩ := sends positive run
  obtain ⟨second, consuming, receives⟩ := receives positive run
  have starves {thread : Nat} {role : Role} (runs : w.programs[thread]? = some role)
      {request : Request Nat} (asks : role.request? = some request) (here : request.queue = 0)
      : w.Starved history thread request :=
    prepared.starved run blocked runs asks (here ▸ Nat.one_pos)
  cases first with
  | sender number stop =>
    have stuffed := starves producing rfl rfl
    cases second with
    | receiver expected =>
      have some : 0 < w.buffered 0 := stuffed.full (Role.side?_sending number stop)
      have none : w.buffered 0 = 0 := (starves consuming rfl rfl).empty rfl
      omega
    | finished => exact stuffed.isOpen receives.2.2
    | _ => exact receives.elim
  | finished =>
    cases second with
    | receiver => exact (starves consuming rfl rfl).isOpen sends.2.2
    | finished =>
      rw [programs_pair run rfl producing consuming] at unfinished
      simp [Role.isFinished] at unfinished
    | _ => exact receives.elim
  | _ => exact sends.elim

/-- The throughput benchmark in any state that it can reach. The consumer has received the
first numbers one after the other and no thread has failed; when the consumer has finished
it has received all of them; and until both have finished, somebody can go on, without a
sleep that ends unasked and whether or not the sink would fail.
-/
structure Delivers (settings : Settings) (history : List (Happening Nat)) (w : World Role Nat)
    : Prop where
  sound : ∀ failure, .failed failure ∉ w.programs
  inTurn
    : ∃ received, received ≤ settings.iterations ∧ handed history 0 1 = List.range received
  complete
    : ∀ {total},
        w.programs[1]? = some (.finished total)
        → total = settings.iterations ∧ handed history 0 1 = List.range settings.iterations
  goesOn
    : (∃ role ∈ w.programs, role.isFinished = false)
      → ∃ thread action after,
        w.step? Role.program thread action = some after ∧ action ≠ .stir ∧ action ≠ .fail
  succeeds
    : (∀ role ∈ w.programs, role.isFinished = true) → throughputSucceeds settings w = true

theorem delivers (positive : 0 < settings.capacity)
    (run : Run Role.program (throughputStart settings) history w)
    : Delivers settings history w := by
  have prepared := prepared_throughput positive
  have opens := opens_throughput positive
  obtain ⟨first, producing, sends⟩ := sends positive run
  obtain ⟨second, consuming, receives⟩ := receives positive run
  have both := programs_pair run rfl producing consuming
  refine ⟨?sound, ?inTurn, ?complete, ?goesOn, ?succeeds⟩
  case sound =>
    intro failure failed
    rw [both] at failed
    simp only [List.mem_cons, List.not_mem_nil, or_false] at failed
    rcases failed with rfl | rfl
    · exact sends
    · exact receives
  case inTurn =>
    have within := (run.received opens (prepared.channel run 0) receiver_starts).trans
      (stored_range positive run).1
    cases second with
    | receiver expected =>
      rw [show handed history 0 1 = _ from receives] at within
      exact ⟨expected, by simpa using within.length_le, receives⟩
    | finished => exact ⟨_, Nat.le_refl _, receives.2.1⟩
    | _ => exact receives.elim
  case complete =>
    intro total finished
    obtain rfl := Option.some.inj (consuming.symm.trans finished)
    exact ⟨receives.1, receives.2.1⟩
  case goesOn =>
    intro unfinished
    exact step?_of_not_blocked (throughput_goesOn positive run unfinished) (prepared.upright run)
  case succeeds =>
    intro finished
    rw [both] at finished
    match first, second, finished first (by simp), finished second (by simp) with
    | .finished _, .finished _, _, _ =>
      obtain ⟨rfl, _⟩ := sends
      obtain ⟨rfl, _⟩ := receives
      exact decide_eq_true both

end

end Conduit.Benchmark
