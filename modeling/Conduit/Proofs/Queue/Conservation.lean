import Conduit.Proofs.Queue.Calls

/-! Whole-run accounting of values: first in, first out, and nothing lost or doubled.
Each value that a call brings is in exactly one place at any time, which the account of the
call and the place of its thread tell.
-/

namespace Conduit

variable {α : Type}

/-- Where a value that a call has brought can be. -/
inductive Place
  /-- In the sequence of values that have entered the queue. -/
  | stored
  /-- With the call, which is still running. -/
  | held
  /-- Back with the caller, in the error that the call has ended with. -/
  | returned
  /-- Gone with the failure of the sink under the call. -/
  | lost
  deriving DecidableEq, Repr

/-- The value that a thread holds on behalf of the call that it is in. -/
def Phase.held? : Phase α → Option α
  | .arrived call | .inside call (.waits ..) _ | .parked _ call | .woken _ call
  | .stumbling _ call =>
    call.operation.offered?
  | .inside _ (.answered answer) _ => answer.handedBack?
  | .idle | .failing _ => none

namespace Account

/-- Whether the value of a call is in a place, given where the thread of the call is. A stored
value has been stored once and the call reports nothing but success; a value that is handed
back is so unchanged. Both are also said of the answer that reports a refusal as closure.
-/
def IsAt (account : Account α) (phase? : Option (Phase α)) (value : α) : Place → Prop
  | .stored =>
    account.stored = [value]
    ∧ ∀ answer,
        account.answer = some answer
        → answer.isAccepted = true ∧ answer.asOffered.isAccepted = true
  | .held => account.answer = none ∧ phase?.bind Phase.held? = some value
  | .returned =>
    ∃ answer,
      account.answer = some answer
      ∧ answer.handedBack? = some value
      ∧ answer.asOffered.handedBack? = some value
  | .lost =>
    account.failed = true ∧ ∀ answer, account.answer = some answer → answer = .sinkFailed

/-- The value of a call is in exactly one place. -/
def HasPlace (account : Account α) (phase? : Option (Phase α)) (value : α) : Prop :=
  ∃ place,
    account.IsAt phase? value place
    ∧ ∀ other, account.IsAt phase? value other → other = place

theorem handedBack?_of_isAccepted {answer : Answer α} (accepted : answer.isAccepted = true)
    : answer.handedBack? = none := by
  unfold Answer.isAccepted at accepted
  split at accepted
  · rfl
  · rfl
  · cases accepted

/-- What an answer that accounts for a call says about the value of the call: stored, handed
back, or lost.
-/
theorem Explains.cases {account : Account α} {answer : Answer α}
    (explains : account.Explains answer) {value : α}
    (offers : account.operation.offered? = some value)
    : (account.failed = false
        ∧ account.stored = [value]
        ∧ answer.isAccepted = true
        ∧ answer.handedBack? = none)
      ∨ (account.failed = false
        ∧ account.stored = []
        ∧ answer.isAccepted = false
        ∧ answer.handedBack? = some value)
      ∨ (account.failed = true ∧ account.stored = [] ∧ answer = .sinkFailed) := by
  have stored := explains.stored
  rw [Answer.accepted, offers] at stored
  rcases explains.offered offers with ⟨healthy, accepted | returned⟩ | ⟨failed, rfl⟩
  · rw [if_pos accepted] at stored
    exact Or.inl ⟨healthy, stored, accepted, handedBack?_of_isAccepted accepted⟩
  · have refused : answer.isAccepted = false := by
      rw [Bool.eq_false_iff]
      intro accepted
      cases returned.symm.trans (handedBack?_of_isAccepted accepted)
    rw [refused] at stored
    exact Or.inr (Or.inl ⟨healthy, stored, refused, returned⟩)
  · exact Or.inr (Or.inr ⟨failed, stored, rfl⟩)

/-- A call that has ended has left its value in one place, as its answer says. -/
theorem Ended.hasPlace {account : Account α} (ended : account.Ended)
    (phase? : Option (Phase α)) {value : α}
    (offers : account.operation.offered? = some value)
    : account.HasPlace phase? value := by
  obtain ⟨answer, answered, explains⟩ := ended
  have same := (Answer.asOffered_values answer).2.2
  rcases explains.cases offers with ⟨healthy, stored, accepted, none⟩
    | ⟨healthy, stored, refused, back⟩ | ⟨failed, stored, rfl⟩
  · refine ⟨.stored, ⟨stored, ?_⟩, fun other there => ?_⟩
    · intro given same
      obtain rfl := Option.some.inj (answered.symm.trans same)
      exact ⟨accepted, (Answer.asOffered_values answer).1.trans accepted⟩
    · cases other <;> simp_all [IsAt]
  · refine ⟨.returned, ⟨answer, answered, back, same.trans back⟩, fun other there => ?_⟩
    cases other <;> simp_all [IsAt]
  · refine ⟨.lost, ⟨failed, ?_⟩, fun other there => ?_⟩
    · intro given same
      exact (Option.some.inj (answered.symm.trans same)).symm
    · cases other <;> simp_all [IsAt, Answer.isAccepted, Answer.handedBack?]

/-- A call that runs still has its value, unless it has stored it or the sink has failed. -/
theorem Fits.hasPlace {account : Account α} {phase : Phase α} (fits : account.Fits phase)
    {value : α} (offers : account.operation.offered? = some value)
    : account.HasPlace (some phase) value := by
  have waiting
      : ∀ {call : Call α},
          account = { operation := call.operation }
          → phase.held? = call.operation.offered?
          → account.HasPlace (some phase) value := by
    intro call fresh holds
    subst fresh
    refine ⟨.held, ⟨rfl, holds.trans offers⟩, fun other there => ?_⟩
    cases other <;> simp_all [IsAt]
  cases phase with
  | idle => exact Ended.hasPlace fits _ offers
  | arrived call | parked side call | woken side call | stumbling sleptOn call =>
    exact waiting fits rfl
  | failing call =>
    obtain rfl : account = { operation := call.operation, failed := true } := fits
    refine ⟨.lost, ⟨rfl, fun _ none => by cases none⟩, fun other there => ?_⟩
    cases other <;> simp_all [IsAt, Phase.held?]
  | inside call outcome reporting =>
    cases outcome with
    | waits side time => exact waiting fits rfl
    | answered answer =>
      obtain ⟨_, running, explains⟩ := fits
      rcases explains.cases offers with ⟨healthy, stored, accepted, none⟩
        | ⟨healthy, stored, refused, back⟩ | ⟨failed, stored, rfl⟩
      · refine ⟨.stored, ⟨stored, by simp [running]⟩, fun other there => ?_⟩
        cases other <;> simp_all [IsAt, Phase.held?]
      · refine ⟨.held, ⟨running, back⟩, fun other there => ?_⟩
        cases other <;> simp_all [IsAt, Phase.held?]
      · refine ⟨.lost, ⟨failed, by simp [running]⟩, fun other there => ?_⟩
        cases other <;> simp_all [IsAt, Phase.held?, Answer.handedBack?]

/-- Of the calls of a thread, only the newest can still run, and it fits where the thread
is.
-/
theorem Kept.cases {accounts : List (Account α)} {phase : Phase α}
    (kept : Kept accounts phase) {account : Account α} (member : account ∈ accounts)
    : account.Fits phase ∨ account.Ended := by
  cases accounts with
  | nil => cases member
  | cons newest earlier =>
    rcases List.mem_cons.mp member with rfl | old
    · exact Or.inl kept.1
    · exact Or.inr (kept.2 account old)

theorem Fits.explains {account : Account α} {phase : Phase α} (fits : account.Fits phase)
    {answer : Answer α} (answered : account.answer = some answer)
    : account.Explains answer := by
  have waiting
      : ∀ {running : Account α},
          account = running → running.answer = none → account.Explains answer := by
    intro running same none
    subst same
    cases answered.symm.trans none
  cases phase with
  | idle =>
    obtain ⟨given, same, explains⟩ := fits
    obtain rfl := Option.some.inj (answered.symm.trans same)
    exact explains
  | inside call outcome reporting =>
    cases outcome with
    | answered given => exact waiting rfl fits.2.1
    | waits side time => exact waiting fits rfl
  | arrived call | parked side call | woken side call | stumbling sleptOn call
  | failing call =>
    exact waiting fits rfl

end Account

namespace Queue

/-- The account of a whole run. The first elements followed by what has been stored are what
has been taken followed by what is buffered, and the buffer never outgrows its capacity. Of
the calls of each thread, every value that one of them brought is in exactly one place; what
they stored and took makes up the thread's part of the two sequences, and their answers tell
it. What leaves is paired with what entered, one by one and in order, so that each consumer
sees the values of each producer in the order in which that producer stored them.
-/
structure Balanced (capacity : Nat) (values : List α) (history : List (Turn α)) (q : Queue α)
    : Prop where
  order
    : values ++ (storedBy history).map Prod.snd
      = (takenBy history).map Prod.snd ++ q.state.ring.toList
  bounded : q.state.ring.toList.length = q.state.ring.length ∧ q.state.ring.length ≤ capacity
  calls
    : ∀ thread,
        (accounts history thread).reverse.map Account.operation
        = (history.filter fun turn => turn.thread == thread).filterMap fun turn =>
            turn.move.called?
  places
    : ∀ {thread account value},
        account ∈ accounts history thread
        → account.operation.offered? = some value
        → account.HasPlace (q.phase? thread) value
  stores
    : ∀ thread,
        ((storedBy history).filter fun entry => entry.1 == thread).map Prod.snd
        = (accounts history thread).reverse.flatMap Account.stored
  takes
    : ∀ thread,
        ((takenBy history).filter fun exit => exit.1 == thread).map Prod.snd
        = (accounts history thread).reverse.flatMap Account.taken
  answers
    : ∀ {thread account answer},
        account ∈ accounts history thread
        → account.answer = some answer
        → account.stored = answer.accepted account.operation
          ∧ account.taken = answer.handedOut
          ∧ account.taken = answer.asReceived.handedOut
  exits
    : (deliveries values history).map (fun delivery => (delivery.consumer, delivery.value))
      = takenBy history
  entered
    : (deliveries values history).map (fun delivery => (delivery.producer, delivery.value))
      = (entries values history).take (takenBy history).length
  received
    : ∀ producer consumer,
        (received values history producer consumer).Sublist (sent values history producer)
        ∧ (received values history producer consumer).Sublist
            (((takenBy history).filter fun exit => exit.1 == consumer).map Prod.snd)

/-- Every run is balanced in every state that it reaches; witness: the order of the lock and
the accounts of the single threads, which are kept step by step.
-/
theorem run_balanced {slotBytes threads : Nat} {clock : Clock} {config : Config}
    {values : List α}
    {fresh q : Queue α} {history : List (Turn α)}
    (created : (ofConfigAndItems slotBytes config (.ofList values)).result = .ok fresh)
    (run : Run (fresh.withThreads clock threads) history q)
    : q.Balanced config.capacity values history := by
  have order := run.order created
  have sound := (run.orderly created).sound
  have booked := run.booked created
  have same
      : (entries values history).map Prod.snd
        = (takenBy history).map Prod.snd ++ q.state.ring.toList := by
    rw [← order]
    simp [entries, Function.comp_def]
  obtain ⟨exits, entered⟩ := zipWith_delivery same
  -- A thread that has ever called has a place, which decides about its newest call.
  have located
      : ∀ {thread account},
          account ∈ accounts history thread
          → ∃ phase, q.phase? thread = some phase ∧ (account.Fits phase ∨ account.Ended) := by
    intro thread account member
    obtain ⟨phase, found⟩ := (booked thread).present (List.ne_nil_of_mem member)
    exact ⟨phase, found, ((booked thread).kept found).cases member⟩
  refine ⟨order, ?bounded, fun thread => (booked thread).calls, ?places,
    fun thread => (booked thread).stored, fun thread => (booked thread).taken, ?answers,
    exits, entered, received_sublist exits entered⟩
  case bounded =>
    refine ⟨Ring.length_toList sound.valid, ?_⟩
    rw [← run.config_eq created, ← sound.capacity]
    exact Ring.length_le_capacity sound.valid
  case places =>
    intro thread account value member offers
    obtain ⟨phase, found, fits | ended⟩ := located member
    · rw [found]
      exact fits.hasPlace offers
    · exact ended.hasPlace _ offers
  case answers =>
    intro thread account answer member answered
    obtain ⟨phase, _, fits | ⟨given, same, explains⟩⟩ := located member
    · have explains := fits.explains answered
      exact ⟨explains.stored, explains.taken,
        explains.taken.trans (Answer.asReceived_values answer).2.1.symm⟩
    · obtain rfl := Option.some.inj (answered.symm.trans same)
      exact ⟨explains.stored, explains.taken,
        explains.taken.trans (Answer.asReceived_values answer).2.1.symm⟩

/-- A push waits for the one slot, and the pop that frees it is followed by one that gets the
value of the push.
-/
def handedOver : List (Nat × Nat × Move Nat) :=
  [(0, 0, .call (.waitPush 6 .infinite) false), (0, 0, .enter []), (0, 0, .leave),
    (1, 1, .call .tryPop false), (1, 1, .enter []), (1, 1, .leave),
    (2, 0, .enter []), (2, 0, .leave),
    (3, 1, .call .tryPop false), (3, 1, .enter []), (3, 1, .leave)]

/-- Both values reach the consumer in their order. -/
theorem run_balanced_handedOver
    : let start := (ofRing (.ofCapacity 1) ((Ring.empty 1).pushed 5)).withThreads .ofWords 2
      let played := start.play handedOver
      storedBy played.1 = [(0, 6)]
      ∧ takenBy played.1 = [(1, 5), (1, 6)]
      ∧ played.2.Balanced 1 [5] played.1 := by
  have created
      : (ofConfigAndItems 8 (.ofCapacity 1) (.ofList [5])).result
        = .ok (ofRing (.ofCapacity 1) ((Ring.empty 1).pushed 5)) := rfl
  exact ⟨rfl, rfl, run_balanced created (.of_play _ handedOver)⟩

end Queue

end Conduit
