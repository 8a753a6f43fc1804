import Conduit.Proofs.Benchmark.Throughput

/-! The round-trip benchmark.
A number is sent only when the one before has come back, so that at most one is under way in
both queues together, and each number that comes back is the one that was sent last. The
echo sees the end only when all of them have come back.
-/

namespace Conduit.Benchmark

open World

/-- The world in which the round-trip benchmark begins. -/
def roundTripStart (settings : Settings) : World Role Nat :=
  opening settings.capacity ["rtt-request", "rtt-reply"] [.requester 0 settings.iterations, .echo]

section
variable {settings : Settings} {history : List (Happening Nat)} {w : World Role Nat}

theorem prepared_roundTrip (positive : 0 < settings.capacity)
    : Prepared (roundTripStart settings) := by
  refine prepared_opening positive _ fun {thread seat role} runs sits => ?_
  match thread with
  | 0 | 1 =>
    obtain rfl := Option.some.inj runs
    exact (Option.some.inj sits).symm
  | _ + 2 => cases runs

theorem opens_requests (positive : 0 < settings.capacity)
    : (roundTripStart settings).Opens 0 [] :=
  (prepared_roundTrip positive).opens Nat.two_pos

theorem opens_replies (positive : 0 < settings.capacity)
    : (roundTripStart settings).Opens 1 [] :=
  (prepared_roundTrip positive).opens Nat.one_lt_two

theorem requester_starts
    : (roundTripStart settings).programs[0]? = some (.requester 0 settings.iterations) := rfl

theorem echo_starts : (roundTripStart settings).programs[1]? = some .echo := rfl

/-- What has been sent has been taken or is on its way. -/
theorem requests_flow (positive : 0 < settings.capacity)
    (run : Run Role.program (roundTripStart settings) history w)
    : (takenFrom history 0 1).length + w.buffered 0 = (storedIn history 0 0).length :=
  run.flow_length (opens_requests positive) ((prepared_roundTrip positive).channel run 0)

/-- What has been sent back has been taken or is on its way. -/
theorem replies_flow (positive : 0 < settings.capacity)
    (run : Run Role.program (roundTripStart settings) history w)
    : (takenFrom history 1 0).length + w.buffered 1 = (storedIn history 1 1).length :=
  run.flow_length (opens_replies positive) ((prepared_roundTrip positive).channel run 1)

/-- Whoever waits for a number has been told of everything that it has sent. -/
theorem told_awaiting (positive : 0 < settings.capacity)
    (run : Run Role.program (roundTripStart settings) history w) {number stop : Nat}
    (runs : w.programs[0]? = some (.awaiting number stop))
    : storedIn history 0 0 = confirmed history 0 0 :=
  run.told_stored (opens_requests positive) requester_starts runs (by rintro _ ⟨⟩ ⟨⟩)

-----------------------------------------------------------------------------------------
-- The echo
-----------------------------------------------------------------------------------------

/-- What the echo has been told to have sent back, by its role: all that it has been handed,
but for the number that it is just sending.
-/
def Echoes (history : List (Happening Nat)) (w : World Role Nat) : Role → Prop
  | .echo => handed history 0 1 = confirmed history 1 1
  | .replying value => handed history 0 1 = confirmed history 1 1 ++ [value]
  | .closingReplies => handed history 0 1 = confirmed history 1 1 ∧ w.ClosedAt 0
  | .finished total =>
    total = 0 ∧ handed history 0 1 = confirmed history 1 1 ∧ w.ClosedAt 0 ∧ w.ClosedAt 1
  | _ => False

theorem echoes (positive : 0 < settings.capacity)
    (run : Run Role.program (roundTripStart settings) history w)
    : ∃ role, w.programs[1]? = some role ∧ Echoes history w role := by
  have prepared := prepared_roundTrip positive
  have requests := opens_requests positive
  have replies := opens_replies positive
  refine run.thread echo_starts (P := Echoes) rfl ?passes ?resumes ?waits
  case passes =>
    intro history w program queue happening after role before holds acts quiet
    have taken := (learns_nothing history happening 0 1 fun _ => quiet).1
    have sent := (learns_nothing history happening 1 1 fun _ => quiet).2.1
    cases role with
    | echo | replying => rwa [Echoes, taken, sent]
    | closingReplies =>
      rw [Echoes, taken, sent]
      exact ⟨holds.1, before.closedAt requests acts holds.2⟩
    | finished =>
      obtain ⟨total, echoed, ended, closed⟩ := holds
      rw [Echoes, taken, sent]
      exact ⟨total, echoed, before.closedAt requests acts ended,
        before.closedAt replies acts closed⟩
    | _ => exact holds.elim
  case resumes =>
    intro history w role queue happening after answer before holds acts next own answered
    cases role with
    | echo =>
      have echoed : handed history 0 1 = confirmed history 1 1 := holds
      have sent := (learns_elsewhere history acts rfl Nat.zero_ne_one 1).2
      rcases prepared.popping_cases before acts own answered rfl with
        ⟨value, rfl, told⟩ | ⟨rfl, told, closed, _⟩
      · change handed _ 0 1 = confirmed _ 1 1 ++ [value]
        rw [told, sent, echoed]
      · change handed _ 0 1 = confirmed _ 1 1 ∧ _
        rw [told, sent]
        exact ⟨echoed, closed⟩
    | replying value =>
      have echoed : handed history 0 1 = confirmed history 1 1 ++ [value] := holds
      have taken := (learns_elsewhere history acts rfl Nat.one_ne_zero 1).1
      obtain ⟨rfl, told⟩ := prepared.pushes before acts next own answered rfl
      change handed _ 0 1 = confirmed _ 1 1
      rw [told, taken, echoed]
    | closingReplies =>
      obtain ⟨echoed, ended⟩ := holds
      have taken := (learns_elsewhere history acts rfl Nat.one_ne_zero 1).1
      obtain ⟨told, closed⟩ := prepared.closes before acts own answered rfl
      refine ⟨rfl, ?_, before.closedAt requests acts ended, closed⟩
      rw [told, taken, echoed]
    | finished => cases acts.asks
    | _ => exact holds.elim
  case waits =>
    intro history w role tick holds
    cases role <;> exact holds

/-- What the echo has sent back is the first part of what it has been handed. -/
theorem echoed_isPrefix (positive : 0 < settings.capacity)
    (run : Run Role.program (roundTripStart settings) history w)
    : storedIn history 1 1 <+: handed history 0 1 := by
  obtain ⟨role, runs, echoes⟩ := echoes positive run
  have stored := run.stored_offering (opens_replies positive) echo_starts runs
  cases role with
  | echo =>
    rw [show handed history 0 1 = _ from echoes]
    simpa [Role.program, Role.request?, Role.calling, Front.queue, Operation.offered?] using stored
  | replying value =>
    rw [show handed history 0 1 = _ from echoes]
    exact stored
  | closingReplies =>
    rw [echoes.1]
    simpa [Role.program, Role.request?, Role.calling, Back.queue, Operation.offered?] using stored
  | finished =>
    rw [echoes.2.1]
    simpa [Role.program, Role.request?] using stored
  | _ => exact echoes.elim

/-- What has come back is the first part of what the echo has been handed. -/
theorem returned_isPrefix (positive : 0 < settings.capacity)
    (run : Run Role.program (roundTripStart settings) history w)
    : handed history 1 0 <+: handed history 0 1 :=
  (run.received (opens_replies positive) ((prepared_roundTrip positive).channel run 1)
      requester_starts).trans
    (echoed_isPrefix positive run)

/-- The echo closes the replies only when it has seen the end of the requests. -/
theorem ended_of_closing (positive : 0 < settings.capacity)
    (run : Run Role.program (roundTripStart settings) history w) {role : Role}
    (runs : w.programs[1]? = some role) (closing : role.isClosing = true)
    : w.ClosedAt 0 := by
  obtain ⟨same, here, echoes⟩ := echoes positive run
  obtain rfl := Option.some.inj (runs.symm.trans here)
  cases role with
  | closingReplies => exact echoes.2
  | finished => exact echoes.2.2.1
  | echo | replying => cases closing
  | _ => exact echoes.elim

-----------------------------------------------------------------------------------------
-- The thread that asks
-----------------------------------------------------------------------------------------

/-- What the asking thread has been told to be sent and what has come back, by its role: all
that it has sent, but for the number that it is waiting for.
-/
def Asks (stop : Nat) (history : List (Happening Nat)) (w : World Role Nat) : Role → Prop
  | .requester next last =>
    last = stop
    ∧ next ≤ stop
    ∧ confirmed history 0 0 = List.range next
    ∧ handed history 1 0 = List.range next
  | .awaiting next last =>
    last = stop
    ∧ next < stop
    ∧ confirmed history 0 0 = List.range (next + 1)
    ∧ handed history 1 0 = List.range next
  | .finished total =>
    total = stop
    ∧ confirmed history 0 0 = List.range stop
    ∧ handed history 1 0 = List.range stop
    ∧ w.ClosedAt 0
  | _ => False

theorem asks (positive : 0 < settings.capacity)
    (run : Run Role.program (roundTripStart settings) history w)
    : ∃ role, w.programs[0]? = some role ∧ Asks settings.iterations history w role := by
  have prepared := prepared_roundTrip positive
  have requests := opens_requests positive
  refine run.thread requester_starts (P := Asks settings.iterations)
    ⟨rfl, Nat.zero_le _, rfl, rfl⟩ ?passes ?resumes ?waits
  case passes =>
    intro history w program queue happening after role before holds acts quiet
    have sent := (learns_nothing history happening 0 0 fun _ => quiet).2.1
    have back := (learns_nothing history happening 1 0 fun _ => quiet).1
    cases role with
    | requester | awaiting => rwa [Asks, sent, back]
    | finished =>
      obtain ⟨total, asked, answered, closed⟩ := holds
      exact ⟨total, sent.trans asked, back.trans answered, before.closedAt requests acts closed⟩
    | _ => exact holds.elim
  case resumes =>
    intro history w role queue happening after answer before holds acts next own answered
    cases role with
    | requester number stop =>
      obtain ⟨same, _, sent, came⟩ := holds
      have back := (learns_elsewhere history acts rfl Nat.zero_ne_one 0).1.trans came
      have resumed
          : Role.program.resume (.requester number stop) answer
            = if number < stop then Role.afterPush number (.awaiting number stop) answer
              else .finished number := rfl
      rcases prepared.sending_cases before acts next own answered rfl with
        ⟨more, rfl, told⟩ | ⟨past, told, closed⟩
      · rw [resumed, if_pos more]
        refine ⟨same, same ▸ more, ?_, back⟩
        rw [told, sent, List.range_succ]
      · obtain rfl : number = stop := by omega
        rw [resumed, if_neg (Nat.lt_irrefl _)]
        exact ⟨same, told.trans (same ▸ sent), same ▸ back, closed⟩
    | awaiting number stop =>
      obtain ⟨same, within, sent, came⟩ := holds
      have told := (learns_elsewhere history acts rfl Nat.one_ne_zero 0).2.trans sent
      rcases prepared.popping_cases before acts own answered rfl with
        ⟨value, rfl, back⟩ | ⟨rfl, _, closed, _⟩
      · -- Only the number that was sent last can come back.
        have fits : handed (history ++ [happening]) 1 0 <+: List.range (number + 1) := by
          calc handed (history ++ [happening]) 1 0
              <+: handed (history ++ [happening]) 0 1 := returned_isPrefix positive next
            _ = handed history 0 1 := (learns_elsewhere history acts rfl Nat.one_ne_zero 1).1
            _ <+: storedIn history 0 0 :=
              before.received requests (prepared.channel before 0) echo_starts
            _ = confirmed history 0 0 := told_awaiting positive before (own ▸ acts.runs)
            _ = List.range (number + 1) := sent
        rw [back, came] at fits
        have inTurn := eq_of_range_append_isPrefix fits
        have resumed
            : Role.program.resume (.awaiting number stop) (.pop (.ok value))
              = .requester (number + 1) stop := if_pos inTurn
        rw [resumed]
        refine ⟨same, within, told, ?_⟩
        rw [back, came, inTurn, List.range_succ]
      · -- The echo does not close the replies as long as a number is under way.
        obtain ⟨_, runs, closing⟩ := prepared.closing next closed
        obtain ⟨_, mine, asking⟩ :=
          prepared.closing next (ended_of_closing positive next runs closing)
        rw [← own, acts.program_resumes answered] at mine
        obtain rfl := Option.some.inj mine
        cases asking
    | finished => cases acts.asks
    | _ => exact holds.elim
  case waits =>
    intro history w role tick holds
    cases role <;> exact holds

-----------------------------------------------------------------------------------------
-- Numbers under way
-----------------------------------------------------------------------------------------

/-- A number is sent only when the one before has come back. -/
theorem sent_le (positive : 0 < settings.capacity)
    (run : Run Role.program (roundTripStart settings) history w)
    : (storedIn history 0 0).length ≤ (handed history 1 0).length + 1 := by
  obtain ⟨role, runs, asks⟩ := asks positive run
  have stored := (run.stored_offering (opens_requests positive) requester_starts runs).length_le
  rw [List.length_append] at stored
  cases role with
  | requester number stop =>
    obtain ⟨_, _, sent, back⟩ := asks
    have offers
        : ((Role.program.request? (.requester number stop)).bind
            fun request => request.operation.offered?).toList.length ≤ 1 :=
      Option.length_toList_le
    rw [sent] at stored
    rw [back]
    omega
  | awaiting number stop =>
    obtain ⟨_, _, sent, back⟩ := asks
    rw [sent, List.length_range] at stored
    rw [back, List.length_range]
    exact stored
  | finished =>
    obtain ⟨_, sent, back, _⟩ := asks
    rw [sent] at stored
    rw [back]
    exact Nat.le_succ_of_le stored
  | _ => exact asks.elim

/-- The numbers in both queues are among those that have been sent and have not come back. -/
theorem buffered_le (positive : 0 < settings.capacity)
    (run : Run Role.program (roundTripStart settings) history w)
    : w.buffered 0 + w.buffered 1 + (handed history 1 0).length
      ≤ (storedIn history 0 0).length := by
  have outward := requests_flow positive run
  have homeward := replies_flow positive run
  have taken := (run.handed_isPrefix (opens_requests positive) echo_starts).length_le
  have returned := (run.handed_isPrefix (opens_replies positive) requester_starts).length_le
  have echoed := (echoed_isPrefix positive run).length_le
  omega

-----------------------------------------------------------------------------------------
-- Both together
-----------------------------------------------------------------------------------------

/-- The two threads do not both wait for a number. The echo has been handed all that was
sent then, and has sent all of it back, so that the last number is there to be taken.
-/
theorem not_both_waiting (positive : 0 < settings.capacity)
    (run : Run Role.program (roundTripStart settings) history w) {number stop : Nat}
    (asking : w.programs[0]? = some (.awaiting number stop))
    (echoing : w.programs[1]? = some .echo)
    (fed : w.Starved history 1 (Role.calling 0 Front.queue.waitPop))
    (hungry : w.Starved history 0 (Role.calling 1 Front.queue.valuePop))
    : False := by
  obtain ⟨_, same, asks⟩ := asks positive run
  obtain rfl := Option.some.inj (asking.symm.trans same)
  obtain ⟨_, same, echoes⟩ := echoes positive run
  obtain rfl := Option.some.inj (echoing.symm.trans same)
  obtain ⟨_, _, sent, back⟩ := asks
  have stored : storedIn history 0 0 = List.range (number + 1) :=
    (told_awaiting positive run asking).trans sent
  have echoed : storedIn history 1 1 = handed history 0 1 :=
    (run.told_stored (opens_replies positive) echo_starts echoing (by rintro _ ⟨⟩ ⟨⟩)).trans
      echoes.symm
  have taken : takenFrom history 0 1 = handed history 0 1 := fed.taken
  have returned : takenFrom history 1 0 = List.range number := hungry.taken.trans back
  have outward := requests_flow positive run
  have homeward := replies_flow positive run
  have none : w.buffered 0 = 0 := fed.empty rfl
  have neither : w.buffered 1 = 0 := hungry.empty rfl
  rw [taken, stored, none, List.length_range] at outward
  rw [returned, echoed, neither, List.length_range] at homeward
  omega

/-- The two threads are never stuck. While the asking thread has something to send, no
number is under way that could fill a queue; while it waits for one, the echo does not; and
when it has finished, all numbers have come back.
-/
theorem roundTrip_goesOn (positive : 0 < settings.capacity)
    (run : Run Role.program (roundTripStart settings) history w)
    (unfinished : ∃ role ∈ w.programs, role.isFinished = false)
    : ¬ w.Blocked Role.program := by
  intro blocked
  have prepared := prepared_roundTrip positive
  obtain ⟨first, asking, asks⟩ := asks positive run
  obtain ⟨second, echoing, echoes⟩ := echoes positive run
  have starves {thread : Nat} {role : Role} (runs : w.programs[thread]? = some role)
      {request : Request Nat} (asks : role.request? = some request)
      (within : request.queue < 2)
      : w.Starved history thread request :=
    prepared.starved run blocked runs asks within
  have buffered := buffered_le positive run
  cases first with
  | requester number stop =>
    obtain ⟨_, _, sent, back⟩ := asks
    have stuffed := starves asking rfl Nat.two_pos
    have some : 0 < w.buffered 0 := stuffed.full (Role.side?_sending number stop)
    have stored : storedIn history 0 0 = List.range number := stuffed.stored.trans sent
    rw [stored, back] at buffered
    omega
  | awaiting number stop =>
    have hungry := starves asking rfl Nat.one_lt_two
    have none : w.buffered 1 = 0 := hungry.empty rfl
    cases second with
    | echo =>
      exact not_both_waiting positive run asking echoing (starves echoing rfl Nat.two_pos) hungry
    | replying =>
      have some : 0 < w.buffered 1 := (starves echoing rfl Nat.one_lt_two).full nofun
      omega
    | closingReplies => exact (starves echoing rfl Nat.one_lt_two).waits rfl
    | finished => exact hungry.isOpen echoes.2.2.2
    | _ => exact echoes.elim
  | finished =>
    obtain ⟨_, sent, back, ended⟩ := asks
    cases second with
    | echo => exact (starves echoing rfl Nat.two_pos).isOpen ended
    | replying =>
      have some : 0 < w.buffered 1 := (starves echoing rfl Nat.one_lt_two).full nofun
      rw [run.told_stored (opens_requests positive) requester_starts asking nofun, sent, back]
        at buffered
      omega
    | closingReplies => exact (starves echoing rfl Nat.one_lt_two).waits rfl
    | finished =>
      rw [programs_pair run rfl asking echoing] at unfinished
      simp [Role.isFinished] at unfinished
    | _ => exact echoes.elim
  | _ => exact asks.elim

/-- The round-trip benchmark in any state that it can reach. No thread has failed; at most
one number has been sent and has not come back, and so both queues together hold at most
one; what comes back is what has been sent, from zero on and in order; the echo closes the
replies only when all numbers have come back; and until both threads have finished, one of
them can go on.
-/
structure Returns (settings : Settings) (history : List (Happening Nat)) (w : World Role Nat)
    : Prop where
  sound : ∀ failure, .failed failure ∉ w.programs
  underWay : (storedIn history 0 0).length ≤ (handed history 1 0).length + 1
  buffered : w.buffered 0 + w.buffered 1 ≤ 1
  replies : handed history 1 0 <+: confirmed history 0 0
  inTurn
    : ∃ rounds, rounds ≤ settings.iterations ∧ handed history 1 0 = List.range rounds
  closesLast
    : ∀ {role},
        w.programs[1]? = some role
        → role.isClosing = true ∨ w.ClosedAt 1
        → handed history 1 0 = List.range settings.iterations
  goesOn
    : (∃ role ∈ w.programs, role.isFinished = false)
      → ∃ thread action after,
        w.step? Role.program thread action = some after ∧ action ≠ .stir ∧ action ≠ .fail
  succeeds
    : (∀ role ∈ w.programs, role.isFinished = true) → roundTripSucceeds settings w = true

theorem returns (positive : 0 < settings.capacity)
    (run : Run Role.program (roundTripStart settings) history w)
    : Returns settings history w := by
  have prepared := prepared_roundTrip positive
  obtain ⟨first, asking, asks⟩ := asks positive run
  obtain ⟨second, echoing, echoes⟩ := echoes positive run
  have both := programs_pair run rfl asking echoing
  have underWay := sent_le positive run
  refine ⟨?sound, underWay, ?buffered, ?replies, ?inTurn, ?closesLast, ?goesOn, ?succeeds⟩
  case sound =>
    intro failure failed
    rw [both] at failed
    simp only [List.mem_cons, List.not_mem_nil, or_false] at failed
    rcases failed with rfl | rfl
    · exact asks
    · exact echoes
  case buffered =>
    have within := buffered_le positive run
    omega
  case replies =>
    cases first with
    | requester =>
      rw [asks.2.2.1, asks.2.2.2]
    | awaiting =>
      rw [asks.2.2.1, asks.2.2.2]
      exact range_isPrefix (Nat.le_succ _)
    | finished =>
      rw [asks.2.1, asks.2.2.1]
    | _ => exact asks.elim
  case inTurn =>
    cases first with
    | requester => exact ⟨_, asks.2.1, asks.2.2.2⟩
    | awaiting => exact ⟨_, Nat.le_of_lt asks.2.1, asks.2.2.2⟩
    | finished => exact ⟨_, Nat.le_refl _, asks.2.2.1⟩
    | _ => exact asks.elim
  case closesLast =>
    intro role runs closes
    have closing : role.isClosing = true := by
      refine closes.elim id fun closed => ?_
      obtain ⟨_, same, closing⟩ := prepared.closing run closed
      obtain rfl := Option.some.inj (runs.symm.trans same)
      exact closing
    obtain ⟨_, same, ended⟩ := prepared.closing run (ended_of_closing positive run runs closing)
    obtain rfl := Option.some.inj (asking.symm.trans same)
    cases first with
    | requester number stop =>
      obtain ⟨_, _, _, back⟩ := asks
      have past : stop ≤ number := of_decide_eq_true ended
      obtain rfl : number = settings.iterations := by omega
      exact back
    | finished => exact asks.2.2.1
    | awaiting => cases ended
    | _ => exact asks.elim
  case goesOn =>
    intro unfinished
    exact step?_of_not_blocked (roundTrip_goesOn positive run unfinished) (prepared.upright run)
  case succeeds =>
    intro finished
    rw [both] at finished
    match first, second, finished first (by simp), finished second (by simp) with
    | .finished _, .finished _, _, _ =>
      obtain ⟨rfl, _⟩ := asks
      obtain ⟨rfl, _⟩ := echoes
      exact decide_eq_true both

end

-----------------------------------------------------------------------------------------
-- Both benchmarks
-----------------------------------------------------------------------------------------

/-- What the benchmarks promise for their settings, whatever the order in which the threads
go on, the sleepers that the wakeups reach and the sleeps that end unasked. If their queues
fit into memory they begin in the two worlds that these promises are about.
-/
structure Promises (settings : Settings) : Prop where
  begins
    : (settings.capacity + 1) * slotBytes ≤ Ring.largestBlock
      → start settings ["throughput"] [.sender 0 settings.iterations, .receiver 0]
          = .ok (throughputStart settings)
        ∧ start settings ["rtt-request", "rtt-reply"] [.requester 0 settings.iterations, .echo]
          = .ok (roundTripStart settings)
  throughput
    : ∀ {history w},
        Run Role.program (throughputStart settings) history w → Delivers settings history w
  roundTrip
    : ∀ {history w},
        Run Role.program (roundTripStart settings) history w → Returns settings history w

/-- The benchmarks are correct for every capacity and every number of iterations. -/
theorem benchmarks_correct {settings : Settings} (positive : 0 < settings.capacity)
    : Promises settings where
  begins fits := ⟨start_eq positive fits, start_eq positive fits⟩
  throughput := delivers positive
  roundTrip := returns positive

/-- Two numbers through queues with room for one. -/
def smallest : Settings := { capacity := 1, iterations := 2 }

/-- The producer and the consumer fall asleep in turn, the one over a full queue and the other
over an empty one, and wake each other.
-/
def takingTurns : List (Nat × Action) :=
  calls [0, 0, 1, 1] ++ [(0, .enter []), (0, .leave), (1, .enter []), (1, .leave)]
  ++ calls [1, 0] ++ [(1, .enter []), (1, .leave)]

/-- The asking thread and the echo sleep over empty queues in turn, before every number and
before the end.
-/
def backAndForth : List (Nat × Action) :=
  let round : List (Nat × Action) :=
    calls [1, 0, 0] ++ [(1, .enter []), (1, .leave)] ++ calls [1]
    ++ [(0, .enter []), (0, .leave)]
  round ++ round ++ calls [1, 0] ++ [(1, .enter []), (1, .leave)] ++ calls [1]

/-- The promises at the smallest queues: both benchmarks come to their end though the
threads have kept falling asleep.
-/
theorem benchmarks_correct_smallest
    : let stream := (throughputStart smallest).play Role.program takingTurns
      let rounds := (roundTripStart smallest).play Role.program backAndForth
      0 < smallest.capacity
      ∧ stream.2.programs = [.finished 2, .finished 2]
      ∧ rounds.2.programs = [.finished 2, .finished 0]
      ∧ Delivers smallest stream.1 stream.2
      ∧ Returns smallest rounds.1 rounds.2 := by
  have promises : Promises smallest := benchmarks_correct Nat.one_pos
  exact ⟨Nat.one_pos, rfl, rfl, promises.throughput (.of_play _ _ _),
    promises.roundTrip (.of_play _ _ _)⟩

end Conduit.Benchmark
