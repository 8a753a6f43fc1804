import Conduit.Proofs.Queue.Ledger

/-! What became of the value that each call brought.
The account of a call is kept from its steps alone, and is compared with where its thread
is: a call that runs still has its value or has stored it, and one that has ended says
which.
-/

namespace Conduit

variable {α : Type}

-----------------------------------------------------------------------------------------
-- Accounts
-----------------------------------------------------------------------------------------

/-- What one call has done: the values that it has stored and taken, whether the sink has
failed under it, and its answer once it has ended.
-/
structure Account (α : Type) where
  operation : Operation α
  stored : List α := []
  taken : List α := []
  failed : Bool := false
  answer : Option (Answer α) := none

/-- The operation that a move calls. -/
def Move.called? : Move α → Option (Operation α)
  | .call operation _ => some operation
  | _ => none

namespace Account

/-- Enters one more step of the call. -/
def note (account : Account α) (turn : Turn α) : Account α :=
  { account with
    stored := account.stored ++ turn.stored
    taken := account.taken ++ turn.taken
    failed := account.failed || turn.move.isFailure
    answer := account.answer.or turn.progress.answer }

/-- Enters a step into the accounts of its thread, of which the first is the newest. -/
def enter (accounts : List (Account α)) (turn : Turn α) : List (Account α) :=
  match turn.move with
  | .call operation _ => { operation } :: accounts
  | _ =>
    match accounts with
    | [] => []
    | account :: earlier => account.note turn :: earlier

theorem enter_of_call (accounts : List (Account α)) {turn : Turn α}
    {operation : Operation α} {failing : Bool} (calls : turn.move = .call operation failing)
    : enter accounts turn = { operation } :: accounts := by
  unfold enter
  rw [calls]

/-- An answer accounts for the values of a call: it tells what has been stored and taken, and
a value that was brought has been stored, is handed back, or is lost since the sink failed.
-/
structure Explains (account : Account α) (answer : Answer α) : Prop where
  stored : account.stored = answer.accepted account.operation
  taken : account.taken = answer.handedOut
  offered
    : ∀ {value},
        account.operation.offered? = some value
        → account.failed = false
            ∧ (answer.isAccepted = true ∨ answer.handedBack? = some value)
          ∨ account.failed = true ∧ answer = .sinkFailed

/-- The call has ended with an answer that accounts for its values. -/
def Ended (account : Account α) : Prop :=
  ∃ answer, account.answer = some answer ∧ account.Explains answer

/-- The account of the newest call of a thread fits where the thread is. -/
def Fits (account : Account α) : Phase α → Prop
  | .idle => account.Ended
  | .inside call (.answered answer) _ =>
    account.operation = call.operation ∧ account.answer = none ∧ account.Explains answer
  | .arrived call | .inside call (.waits ..) _ | .parked _ call | .woken _ call
  | .stumbling _ call =>
    account = { operation := call.operation }
  | .failing call => account = { operation := call.operation, failed := true }

end Account

namespace Queue

/-- The accounts of the calls of a thread, newest first. -/
def accounts (history : List (Turn α)) (thread : Nat) : List (Account α) :=
  (history.filter fun turn => turn.thread == thread).foldl Account.enter []

theorem accounts_step_self (history : List (Turn α)) (turn : Turn α)
    : accounts (history ++ [turn]) turn.thread
      = Account.enter (accounts history turn.thread) turn := by
  simp [accounts, List.filter_append, List.foldl_append]

theorem accounts_step_other (history : List (Turn α)) {turn : Turn α} {thread : Nat}
    (different : turn.thread ≠ thread)
    : accounts (history ++ [turn]) thread = accounts history thread := by
  simp [accounts, List.filter_append, different]

end Queue

-----------------------------------------------------------------------------------------
-- How a step continues an account
-----------------------------------------------------------------------------------------

namespace Account

theorem note_of_unsettled {account : Account α} {turn : Turn α}
    (unsettled : turn.settles? = none)
    : account.note turn
      = { account with
          failed := account.failed || turn.move.isFailure
          answer := account.answer.or turn.progress.answer } := by
  simp only [note, Turn.stored, Turn.taken, unsettled, List.append_nil]

/-- An answer that neither stores nor hands out a value accounts for a call that has done
neither.
-/
theorem explains_of_nothing {account : Account α} {answer : Answer α}
    (stored : account.stored = []) (taken : account.taken = [])
    (refused : answer.isAccepted = false) (nothing : answer.handedOut = [])
    (offered
      : ∀ {value},
          account.operation.offered? = some value
          → account.failed = false
              ∧ (answer.isAccepted = true ∨ answer.handedBack? = some value)
            ∨ account.failed = true ∧ answer = .sinkFailed)
    : account.Explains answer where
  stored := by rw [stored, Answer.accepted, refused]; rfl
  taken := taken.trans nothing.symm
  offered := offered

theorem explains_of_busy {operation : Operation α} {answer : Answer α}
    (busy : operation.busy? = some answer) (answered : Option (Answer α))
    : ({ operation, answer := answered } : Account α).Explains answer := by
  cases operation <;> cases busy
  · refine explains_of_nothing rfl rfl rfl rfl ?_
    intro value offers
    cases offers
    exact Or.inl ⟨rfl, Or.inr rfl⟩
  · refine explains_of_nothing rfl rfl rfl rfl ?_
    intro value offers
    cases offers

/-- The answer of a call that needs no lock has nothing to account for. -/
theorem explains_of_inspection (config : Config) (property : Property)
    (answered : Option (Answer α))
    : ({ operation := .inspect property, answer := answered } : Account α).Explains
        (config.inspect property) := by
  cases property <;>
    exact explains_of_nothing rfl rfl rfl rfl fun offers => by cases offers

/-- The answer that work under the lock ends with accounts for the values that it moves. -/
theorem explains_of_work {q : Queue α} {now : Nat} {call : Call α}
    {done : Section α (Outcome α)} (answered : q.Answered now call done) {answer : Answer α}
    (result : done.result = .answered answer)
    : ({ operation := call.operation
         stored := answer.accepted call.operation
         taken := answer.handedOut } : Account α).Explains answer := by
  have response := answered.response
  rw [Section.response, result] at response
  have served := Fifo.served_of_serve response
  refine ⟨rfl, rfl, ?_⟩
  intro value offers
  rcases served.offered value offers with rfl | ⟨_, handedBack⟩
  · exact Or.inl ⟨rfl, Or.inl rfl⟩
  · exact Or.inl ⟨rfl, Or.inr handedBack⟩

theorem note_of_settled {account : Account α} {turn : Turn α} {operation : Operation α}
    {answer : Answer α} (settled : turn.settles? = some (operation, answer))
    : account.note turn
      = { account with
          stored := account.stored ++ answer.accepted operation
          taken := account.taken ++ answer.handedOut
          failed := account.failed || turn.move.isFailure
          answer := account.answer.or turn.progress.answer } := by
  simp only [note, Turn.stored, Turn.taken, settled]

/-- A failure of the sink turns the account of a call into that of a lost one. -/
theorem note_of_failed {account : Account α} {turn : Turn α} {answer : Answer α}
    (explains : account.Explains answer) (reported : answer.isReported = true)
    (running : account.answer = none) (fails : turn.move = .fail)
    : account.note turn
      = { operation := account.operation, failed := true, answer := turn.progress.answer } := by
  have unsettled : turn.settles? = none := by
    rw [Turn.settles?, fails]
  obtain ⟨refused, nothing⟩ := Answer.isReported_values reported
  have stored : account.stored = [] := by
    rw [explains.stored, Answer.accepted, refused]
    rfl
  have taken : account.taken = [] := explains.taken.trans nothing
  rw [note_of_unsettled unsettled, fails, running, Option.none_or]
  obtain ⟨operation, _, _, failed, _⟩ := account
  simp only at stored taken
  rw [stored, taken]
  simp only [Move.isFailure, Bool.or_true]

/-- A failure of the sink turns the account of the call that is with it into that of a lost
one, be it that the call has done its work or that it has stumbled.
-/
theorem Fits.note_of_failed {q : Queue α} (orderly : q.Orderly) {thread : Nat}
    {phase : Phase α} {call : Call α} (here : q.phase? thread = some phase)
    (reports : phase.atSink? = some call) {account : Account α} (fits : account.Fits phase)
    {turn : Turn α} (fails : turn.move = .fail)
    : account.note turn
      = { operation := call.operation, failed := true, answer := turn.progress.answer } := by
  rcases Phase.cases_of_atSink? reports with ⟨outcome, rfl⟩ | ⟨sleptOn, rfl⟩
  · obtain ⟨answer, rfl, reported⟩ := orderly.answered_of_reporting here
    obtain ⟨same, waiting, explains⟩ := fits
    rw [Account.note_of_failed explains reported waiting fails, same]
  · obtain rfl := fits
    rw [note_of_unsettled (by rw [Turn.settles?, fails]), fails]
    rfl

/-- A call that the sink has failed under has lost its value. -/
theorem explains_of_failed (operation : Operation α) (answered : Option (Answer α))
    : ({ operation, failed := true, answer := answered } : Account α).Explains .sinkFailed :=
  explains_of_nothing rfl rfl rfl rfl fun _ => Or.inr ⟨rfl, rfl⟩

-----------------------------------------------------------------------------------------
-- The accounts of a thread and where it is
-----------------------------------------------------------------------------------------

/-- All calls of a thread but the newest have ended, and the account of that one fits where
the thread is.
-/
def Kept (accounts : List (Account α)) (phase : Phase α) : Prop :=
  match accounts with
  | [] => phase = .idle
  | account :: earlier => account.Fits phase ∧ ∀ old ∈ earlier, old.Ended

theorem Kept.ended {accounts : List (Account α)} (kept : Kept accounts .idle)
    {account : Account α} (member : account ∈ accounts)
    : account.Ended := by
  cases accounts with
  | nil => cases member
  | cons newest earlier =>
    rcases List.mem_cons.mp member with rfl | old
    · exact kept.1
    · exact kept.2 account old

/-- What a step does to the accounts of its thread: it opens one, or adds to the newest. -/
inductive Grown (accounts : List (Account α)) (turn : Turn α) : List (Account α) → Prop
  | opens {operation failing} (calls : turn.move = .call operation failing)
    : Grown accounts turn ({ operation } :: accounts)
  | adds {account earlier} (newest : accounts = account :: earlier)
    (continues : turn.move.called? = none)
    : Grown accounts turn (account.note turn :: earlier)

/-- A thread in a call has an account of it, to which a step is added. -/
theorem Kept.goesOn {accounts : List (Account α)} {old new : Phase α}
    (kept : Kept accounts old) (running : old ≠ .idle) {turn : Turn α}
    (continues : turn.move.called? = none)
    (step : ∀ {account : Account α}, account.Fits old → (account.note turn).Fits new)
    : Kept (enter accounts turn) new ∧ Grown accounts turn (enter accounts turn) := by
  cases accounts with
  | nil => exact absurd kept running
  | cons account earlier =>
    have entered : enter (account :: earlier) turn = account.note turn :: earlier := by
      unfold enter
      split
      · rename_i operation failing calls
        rw [calls] at continues
        cases continues
      · rfl
    rw [entered]
    exact ⟨⟨step kept.1, kept.2⟩, .adds rfl continues⟩

/-- An account stays as it is in a step that settles nothing and gives no answer. -/
theorem note_of_nothing {account : Account α} {turn : Turn α} (unsettled : turn.settles? = none)
    (healthy : turn.move.isFailure = false) (unanswered : turn.progress.answer = none)
    : account.note turn = account := by
  rw [note_of_unsettled unsettled, healthy, unanswered, Bool.or_false, Option.or_none]

/-- Whoever wants the lock for its work has moved nothing yet. -/
theorem Fits.untouched {account : Account α} {call : Call α} {sleptOn : Option Side}
    (fits : account.Fits (call.atDoor sleptOn))
    : account = { operation := call.operation } := by
  cases sleptOn <;> exact fits

/-- Work under the lock is added to an account with its answer, unless it leads to a sleep. -/
theorem Fits.works {q : Queue α} (orderly : q.Orderly) {now thread : Nat} {call : Call α}
    {sleptOn : Option Side} (door : q.phase? thread = some (call.atDoor sleptOn))
    (preferred : List Nat) {account : Account α} (fits : account.Fits (call.atDoor sleptOn))
    : (account.note
          ⟨now, thread, .enter preferred,
            q.enterWith thread call preferred (q.work now call sleptOn)⟩).Fits
        (Queue.entered call (q.work now call sleptOn)) := by
  obtain ⟨_, answered⟩ :=
    Queue.worked_of_work orderly.sound now call sleptOn (orderly.came door)
  have settles := Queue.settles?_enterWith now door call preferred (q.work now call sleptOn)
  rw [fits.untouched]
  unfold Queue.entered
  cases result : (q.work now call sleptOn).result with
  | answered answer =>
    rw [result] at settles
    rw [note_of_settled settles]
    exact ⟨rfl, rfl, explains_of_work answered result⟩
  | waits side time =>
    rw [result] at settles
    rw [note_of_unsettled settles]
    rfl

/-- Cleaning up is added to the account of a lost call with the failure as its answer. -/
theorem Fits.cleansUp {q : Queue α} (orderly : q.Orderly) {now thread : Nat} {call : Call α}
    (failing : q.phase? thread = some (.failing call)) (preferred : List Nat)
    {account : Account α} (fits : account.Fits (.failing call))
    : (account.note
          ⟨now, thread, .enter preferred,
            q.enterWith thread { call with alreadyFailing := true } preferred
              q.failureWork⟩).Fits
        (Queue.entered { call with alreadyFailing := true } q.failureWork) := by
  obtain ⟨_, _, result, _⟩ := Queue.worked_of_failureWork orderly.sound
  have settles :=
    Queue.settles?_enterWith now failing { call with alreadyFailing := true } preferred
      q.failureWork
  obtain rfl := fits
  rw [result] at settles
  rw [note_of_settled settles, Queue.entered, result]
  exact ⟨rfl, rfl, explains_of_failed call.operation _⟩

/-- A step of a thread in a call, added to the account of the call, leaves an account that
fits where the thread has got to, by cases on what the thread does.
-/
theorem Fits.step {q : Queue α} (orderly : q.Orderly) {turn : Turn α} {old : Phase α}
    (made : q.step? turn.now turn.thread turn.move = some turn.progress)
    (found : q.phase? turn.thread = some old) (running : old ≠ .idle)
    : ∃ new,
        turn.progress.queue.phase? turn.thread = some new
        ∧ turn.move.called? = none
        ∧ ∀ {account : Account α}, account.Fits old → (account.note turn).Fits new := by
  obtain ⟨now, thread, move, progress⟩ := turn
  have transition : q.Transition now thread move progress := .of_step? made
  simp only at found
  cases transition with
  | begins idle => exact absurd (Option.some.inj (found.symm.trans idle)) running
  | @inspects preferred call property arrived asks =>
    obtain rfl := Option.some.inj (found.symm.trans arrived)
    refine ⟨_, Queue.phase?_setPhase_self arrived _, rfl, ?_⟩
    intro account fits
    obtain rfl := fits
    rw [note_of_unsettled
      (Queue.settles?_idle now arrived preferred (q.config.inspect property))]
    refine ⟨_, rfl, ?_⟩
    rw [asks]
    exact explains_of_inspection q.config property _
  | @refuses preferred call holder answer arrived held busy =>
    obtain rfl := Option.some.inj (found.symm.trans arrived)
    refine ⟨_, Queue.phase?_setPhase_self arrived _, rfl, ?_⟩
    intro account fits
    obtain rfl := fits
    rw [note_of_unsettled (Queue.settles?_idle now arrived preferred answer)]
    exact ⟨_, rfl, explains_of_busy busy _⟩
  | @enters preferred call sleptOn door =>
    obtain rfl := Option.some.inj (found.symm.trans door)
    exact ⟨_, Queue.phase?_enterWith_self door, rfl,
      fun fits => fits.works orderly door preferred⟩
  | @cleansUp preferred call failing =>
    obtain rfl := Option.some.inj (found.symm.trans failing)
    exact ⟨_, Queue.phase?_enterWith_self failing, rfl,
      fun fits => fits.cleansUp orderly failing preferred⟩
  | @ends call answer reporting inside =>
    obtain rfl := Option.some.inj (found.symm.trans inside)
    refine ⟨_, Queue.phase?_setPhase_self inside _, rfl, ?_⟩
    intro account fits
    obtain ⟨same, waiting, explains⟩ := fits
    rw [note_of_unsettled rfl, waiting, Option.none_or]
    refine ⟨answer, rfl, explains.stored, explains.taken, fun offers => ?_⟩
    simpa only [Move.isFailure, Bool.or_false] using explains.offered offers
  | sleeps here | stirs here =>
    obtain rfl := Option.some.inj (found.symm.trans here)
    refine ⟨_, Queue.phase?_setPhase_self here _, rfl, fun fits => ?_⟩
    rw [note_of_nothing rfl rfl rfl]
    exact fits
  | stumbles sleptOn door =>
    obtain rfl := Option.some.inj (found.symm.trans door)
    refine ⟨_, Queue.phase?_setPhase_self door _, rfl, fun fits => ?_⟩
    rw [note_of_nothing rfl rfl rfl]
    exact fits.untouched
  | @fails call phase here reports | @failsAgain call phase here reports =>
    obtain rfl := Option.some.inj (found.symm.trans here)
    refine ⟨_, Queue.phase?_setPhase_self here _, rfl, fun fits => ?_⟩
    rw [fits.note_of_failed orderly here reports rfl]
    exact ⟨_, rfl, explains_of_failed call.operation _⟩
  | @failsGuarded call phase here reports =>
    obtain rfl := Option.some.inj (found.symm.trans here)
    refine ⟨_, Queue.phase?_setPhase_self here _, rfl, fun fits => ?_⟩
    rw [fits.note_of_failed orderly here reports rfl]
    rfl

/-- A step of a thread opens an account or is added to the newest one, and the accounts fit
where the thread has got to.
-/
theorem Kept.step {q : Queue α} (orderly : q.Orderly) {turn : Turn α} {old new : Phase α}
    (made : q.step? turn.now turn.thread turn.move = some turn.progress)
    (found : q.phase? turn.thread = some old)
    (after : turn.progress.queue.phase? turn.thread = some new) {accounts : List (Account α)}
    (kept : Kept accounts old)
    : Kept (enter accounts turn) new ∧ Grown accounts turn (enter accounts turn) := by
  by_cases idle : old = .idle
  · subst idle
    have transition := Queue.Transition.of_step? made
    obtain ⟨call, calls, progress⟩ := transition.of_idle found
    have arrived := Queue.phase?_setPhase_self found (.arrived call)
    rw [progress] at after
    obtain rfl := Option.some.inj (after.symm.trans arrived)
    rw [enter_of_call accounts calls]
    exact ⟨⟨rfl, fun account member => kept.ended member⟩, .opens calls⟩
  · obtain ⟨got, there, continues, step⟩ := Fits.step orderly made found idle
    obtain rfl := Option.some.inj (after.symm.trans there)
    exact kept.goesOn idle continues step

/-- A step that opens an account lists its call, and any other step adds the values that it
moves to the newest account.
-/
theorem Grown.totals {accounts after : List (Account α)} {turn : Turn α}
    (grown : Grown accounts turn after)
    : after.reverse.map operation
        = accounts.reverse.map operation ++ turn.move.called?.toList
      ∧ after.reverse.flatMap stored = accounts.reverse.flatMap stored ++ turn.stored
      ∧ after.reverse.flatMap taken = accounts.reverse.flatMap taken ++ turn.taken := by
  cases grown with
  | opens calls =>
    have unsettled : turn.settles? = none := by rw [Turn.settles?, calls]
    simp [Turn.stored, Turn.taken, unsettled, calls, Move.called?]
  | adds newest continues =>
    subst newest
    simp [note, continues, List.flatMap_append]

end Account

-----------------------------------------------------------------------------------------
-- The accounts of a run
-----------------------------------------------------------------------------------------

namespace Queue

/-- The accounts of a thread list its calls, fit where it is, and together hold all that it
has stored and taken.
-/
structure Booked (history : List (Turn α)) (q : Queue α) (thread : Nat) : Prop where
  kept : ∀ {phase}, q.phase? thread = some phase → Account.Kept (accounts history thread) phase
  present : accounts history thread ≠ [] → ∃ phase, q.phase? thread = some phase
  calls
    : (accounts history thread).reverse.map Account.operation
      = (history.filter fun turn => turn.thread == thread).filterMap fun turn =>
          turn.move.called?
  stored
    : ((storedBy history).filter fun entry => entry.1 == thread).map Prod.snd
      = (accounts history thread).reverse.flatMap Account.stored
  taken
    : ((takenBy history).filter fun exit => exit.1 == thread).map Prod.snd
      = (accounts history thread).reverse.flatMap Account.taken

theorem filter_tagged (tag thread : Nat) (values : List α)
    : ((values.map (Prod.mk tag)).filter fun entry => entry.1 == thread).map Prod.snd
      = if tag = thread then values else [] := by
  by_cases same : tag = thread
  · simp [same, List.filter_map, Function.comp_def]
  · simp [same, List.filter_map, Function.comp_def]

/-- What a thread has moved grows by what its steps move, be it in or out. -/
theorem filter_moved_step (moved : Turn α → List α) (history : List (Turn α)) (turn : Turn α)
    (thread : Nat)
    : (((history ++ [turn]).flatMap fun turn => (moved turn).map (turn.thread, ·)).filter
          fun entry => entry.1 == thread).map Prod.snd
      = ((history.flatMap fun turn => (moved turn).map (turn.thread, ·)).filter
            fun entry => entry.1 == thread).map Prod.snd
        ++ if turn.thread = thread then moved turn else [] := by
  rw [List.flatMap_append, List.flatMap_singleton, List.filter_append, List.map_append,
    filter_tagged]

theorem storedBy_step (history : List (Turn α)) (turn : Turn α) (thread : Nat)
    : ((storedBy (history ++ [turn])).filter fun entry => entry.1 == thread).map Prod.snd
      = ((storedBy history).filter fun entry => entry.1 == thread).map Prod.snd
        ++ if turn.thread = thread then turn.stored else [] :=
  filter_moved_step Turn.stored history turn thread

theorem takenBy_step (history : List (Turn α)) (turn : Turn α) (thread : Nat)
    : ((takenBy (history ++ [turn])).filter fun entry => entry.1 == thread).map Prod.snd
      = ((takenBy history).filter fun entry => entry.1 == thread).map Prod.snd
        ++ if turn.thread = thread then turn.taken else [] :=
  filter_moved_step Turn.taken history turn thread

/-- A step keeps the accounts of the thread that makes it in order. -/
theorem Booked.step_self {history : List (Turn α)} {q : Queue α} {turn : Turn α}
    (booked : q.Booked history turn.thread) (orderly : q.Orderly)
    (made : q.step? turn.now turn.thread turn.move = some turn.progress)
    : turn.progress.queue.Booked (history ++ [turn]) turn.thread := by
  obtain ⟨old, new, found, after⟩ := (Transition.of_step? made).present
  obtain ⟨kept, grown⟩ := Account.Kept.step orderly made found after (booked.kept found)
  have listed
      : ((history ++ [turn]).filter fun other => other.thread == turn.thread).filterMap
          (fun other => other.move.called?)
        = (history.filter fun other => other.thread == turn.thread).filterMap
            (fun other => other.move.called?) ++ turn.move.called?.toList := by
    rw [List.filter_append, List.filterMap_append]
    cases called : turn.move.called? <;> simp [called]
  obtain ⟨operations, storings, takings⟩ := grown.totals
  refine ⟨?_, fun _ => ⟨new, after⟩, ?_, ?_, ?_⟩
  · intro phase here
    obtain rfl := Option.some.inj (after.symm.trans here)
    rw [accounts_step_self]
    exact kept
  · rw [accounts_step_self, operations, booked.calls, listed]
  · rw [accounts_step_self, storings, ← booked.stored, storedBy_step, if_pos rfl]
  · rw [accounts_step_self, takings, ← booked.taken, takenBy_step, if_pos rfl]

/-- A step keeps the accounts of every other thread in order. -/
theorem Booked.step_other {history : List (Turn α)} {q : Queue α} {turn : Turn α}
    {thread : Nat} (booked : q.Booked history thread)
    (made : q.step? turn.now turn.thread turn.move = some turn.progress)
    (different : turn.thread ≠ thread)
    : turn.progress.queue.Booked (history ++ [turn]) thread := by
  have others := (Transition.of_step? made).others (Ne.symm different)
  refine ⟨?_, ?_, ?_, ?_, ?_⟩
  · intro phase here
    rw [accounts_step_other history different]
    rcases others with same | ⟨side, call, parked, woken⟩
    · exact booked.kept (same.symm.trans here)
    · obtain rfl := Option.some.inj (woken.symm.trans here)
      have kept := booked.kept parked
      cases accounts : Queue.accounts history thread with
      | nil =>
        rw [accounts] at kept
        cases kept
      | cons account earlier =>
        rw [accounts] at kept
        exact kept
  · intro some
    rw [accounts_step_other history different] at some
    obtain ⟨phase, here⟩ := booked.present some
    rcases others with same | ⟨side, call, parked, woken⟩
    · exact ⟨phase, same.trans here⟩
    · exact ⟨_, woken⟩
  · rw [accounts_step_other history different, booked.calls]
    simp [List.filter_append, different]
  · rw [accounts_step_other history different, ← booked.stored, storedBy_step,
      if_neg different, List.append_nil]
  · rw [accounts_step_other history different, ← booked.taken, takenBy_step,
      if_neg different, List.append_nil]

/-- In every reachable state the accounts of all threads are in order, by induction on the
run.
-/
theorem Run.booked {slotBytes threads : Nat} {clock : Clock} {config : Config} {values : List α}
    {fresh q : Queue α} {history : List (Turn α)}
    (created : (ofConfigAndItems slotBytes config (.ofList values)).result = .ok fresh)
    (run : Run (fresh.withThreads clock threads) history q) (thread : Nat)
    : q.Booked history thread := by
  induction run with
  | start =>
    refine ⟨fun found => ?_, fun some => absurd rfl some, rfl, rfl, rfl⟩
    exact phase?_withThreads found
  | @step history q turn before made ih =>
    by_cases same : turn.thread = thread
    · subst same
      exact ih.step_self (before.orderly created) made
    · exact ih.step_other made same

end Queue

end Conduit
