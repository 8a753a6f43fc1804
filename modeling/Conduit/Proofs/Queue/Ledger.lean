import Conduit.Proofs.Queue.Runs

/-! Every value that enters or leaves a queue during a run, in the order of the lock.
The values that came in are those that went out followed by those that are still buffered, so
that each value that went out can be traced to the thread that brought it.
-/

namespace Conduit

variable {α : Type}

-----------------------------------------------------------------------------------------
-- What a step stores and takes
-----------------------------------------------------------------------------------------

namespace Turn

/-- The operation that a step works on under the lock, and the answer that the work ends with.
-/
def settles? (turn : Turn α) : Option (Operation α × Answer α) :=
  match turn.move, turn.progress.queue.phase? turn.thread with
  | .enter _, some (.inside call (.answered answer) _) => some (call.operation, answer)
  | _, _ => none

/-- The values that a step stores in the queue. -/
def stored (turn : Turn α) : List α :=
  match turn.settles? with
  | some (operation, answer) => answer.accepted operation
  | none => []

/-- The values that a step takes out of the queue, oldest first. -/
def taken (turn : Turn α) : List α :=
  match turn.settles? with
  | some (_, answer) => answer.handedOut
  | none => []

end Turn

namespace Queue

/-- The values stored in the course of a run, with the threads that brought them. -/
def storedBy (history : List (Turn α)) : List (Nat × α) :=
  history.flatMap fun turn => turn.stored.map (turn.thread, ·)

/-- The values taken in the course of a run, with the threads that got them. -/
def takenBy (history : List (Turn α)) : List (Nat × α) :=
  history.flatMap fun turn => turn.taken.map (turn.thread, ·)

-----------------------------------------------------------------------------------------
-- What each kind of step settles
-----------------------------------------------------------------------------------------

section
variable {q : Queue α} {thread : Nat} {old : Phase α}

/-- A thread that takes the lock settles its operation, unless it has to wait. -/
theorem settles?_enterWith (now : Nat) (found : q.phase? thread = some old) (call : Call α)
    (preferred : List Nat) (done : Section α (Outcome α))
    : Turn.settles? ⟨now, thread, .enter preferred, q.enterWith thread call preferred done⟩
      = match done.result with
        | .answered answer => some (call.operation, answer)
        | .waits .. => none := by
  have inside : (q.enterWith thread call preferred done).queue.phase? thread
      = some (.inside call done.result (canFail done.events)) := phase?_enterWith_self found
  simp only [Turn.settles?, inside]
  cases done.result <;> rfl

theorem settles?_idle (now : Nat) (found : q.phase? thread = some old) (preferred : List Nat)
    (answer : Answer α)
    : Turn.settles?
        ⟨now, thread, .enter preferred, { queue := q.setPhase thread .idle, answer }⟩
      = none := by
  simp only [Turn.settles?, phase?_setPhase_self found .idle]

end

-----------------------------------------------------------------------------------------
-- The order of the values
-----------------------------------------------------------------------------------------

/-- Work that ends with an answer appends what it accepts and removes what it hands out. -/
theorem Answered.elements {q : Queue α} {now : Nat} {call : Call α}
    {done : Section α (Outcome α)} (answered : q.Answered now call done) {answer : Answer α}
    (result : done.result = .answered answer)
    : q.state.ring.toList ++ answer.accepted call.operation
      = answer.handedOut ++ done.state.ring.toList := by
  have response := answered.response
  rw [Section.response, result] at response
  exact (Fifo.served_of_serve response).order

/-- A step appends what it stores and removes what it takes, by cases on what the thread does.
-/
theorem Orderly.elements {q : Queue α} (orderly : q.Orderly) {turn : Turn α}
    (made : q.step? turn.now turn.thread turn.move = some turn.progress)
    : q.state.ring.toList ++ turn.stored
      = turn.taken ++ turn.progress.queue.state.ring.toList := by
  obtain ⟨now, thread, move, progress⟩ := turn
  have transition : q.Transition now thread move progress := .of_step? made
  simp only [Turn.stored, Turn.taken]
  cases transition with
  | begins | stumbles | ends | sleeps | fails | failsGuarded | failsAgain | stirs =>
    exact List.append_nil _
  | inspects arrived | refuses arrived =>
    rw [settles?_idle now arrived]
    exact List.append_nil _
  | @enters preferred call sleptOn door free locks =>
    obtain ⟨worked, answered⟩ :=
      worked_of_work orderly.sound now call sleptOn (orderly.came door)
    rw [settles?_enterWith now door]
    cases result : (q.work now call sleptOn).result with
    | answered answer => exact answered.elements result
    | waits side time =>
      have kept := congrArg Ring.toList (answered.kept result)
      exact (List.append_nil _).trans kept.symm
  | @cleansUp preferred call failing free =>
    obtain ⟨_, shut, result, _⟩ := worked_of_failureWork orderly.sound
    have kept := congrArg Fifo.elements shut
    rw [settles?_enterWith now failing, result]
    exact (List.append_nil _).trans kept.symm

section
variable {slotBytes threads : Nat} {clock : Clock} {config : Config} {values : List α}
  {fresh q : Queue α}
  {history : List (Turn α)}

/-- In the course of a run, the first elements followed by what has been stored are what has
been taken followed by what is buffered.
-/
theorem Run.order
    (created : (ofConfigAndItems slotBytes config (.ofList values)).result = .ok fresh)
    (run : Run (fresh.withThreads clock threads) history q)
    : values ++ (storedBy history).map Prod.snd
      = (takenBy history).map Prod.snd ++ q.state.ring.toList := by
  induction run with
  | start =>
    obtain ⟨ring, rfl, _, _, elements, _⟩ := created_eq created
    exact (List.append_nil _).trans elements.symm
  | @step history q turn before made ih =>
    have values_of
        : ∀ (thread : Nat) (moved : List α),
            (moved.map (Prod.mk thread)).map Prod.snd = moved := fun thread moved => by
      rw [List.map_map]
      exact List.map_id moved
    have step := (before.orderly created).elements made
    simp only [storedBy, takenBy, List.flatMap_append, List.flatMap_singleton, List.map_append,
      values_of] at ih ⊢
    rw [← List.append_assoc, ih, List.append_assoc, step, List.append_assoc]

theorem Run.config_eq
    (created : (ofConfigAndItems slotBytes config (.ofList values)).result = .ok fresh)
    (run : Run (fresh.withThreads clock threads) history q)
    : q.config = config := by
  refine run.invariant created (·.config = config) ?_ ?_
  · obtain ⟨ring, rfl, _⟩ := created_eq created
    rfl
  · intro q now thread move progress _ same transition
    cases transition <;> exact same

end

-----------------------------------------------------------------------------------------
-- Which value reached whom
-----------------------------------------------------------------------------------------

end Queue

/-- A value on its way through a queue: the thread that brought it, if it was not there from
the beginning, and the thread that got it.
-/
structure Delivery (α : Type) where
  producer : Option Nat
  consumer : Nat
  value : α

namespace Queue

/-- All values that have entered a queue, with the threads that brought them. -/
def entries (values : List α) (history : List (Turn α)) : List (Option Nat × α) :=
  values.map (Prod.mk none)
    ++ (storedBy history).map fun entry => (some entry.1, entry.2)

/-- The values that have left a queue. The first to leave is the first that entered. -/
def deliveries (values : List α) (history : List (Turn α)) : List (Delivery α) :=
  List.zipWith (fun entry exit => ⟨entry.1, exit.1, entry.2⟩) (entries values history)
    (takenBy history)

/-- What a consumer has got from a producer, in the order in which it got it. -/
def received (values : List α) (history : List (Turn α)) (producer : Option Nat)
    (consumer : Nat) : List α :=
  ((deliveries values history).filter fun delivery =>
    delivery.producer == producer && delivery.consumer == consumer).map Delivery.value

/-- What a producer has stored, in the order in which it stored it. -/
def sent (values : List α) (history : List (Turn α)) (producer : Option Nat) : List α :=
  ((entries values history).filter fun entry => entry.1 == producer).map Prod.snd

/-- Pairing two lists position by position, where the values of one begin with the values of
the other, loses nothing of the shorter one and keeps the order of the longer one.
-/
theorem zipWith_delivery {entries : List (Option Nat × α)} {exits : List (Nat × α)}
    {buffered : List α}
    (same : entries.map Prod.snd = exits.map Prod.snd ++ buffered)
    : (List.zipWith (fun entry exit => (⟨entry.1, exit.1, entry.2⟩ : Delivery α)) entries
            exits).map (fun delivery => (delivery.consumer, delivery.value))
        = exits
      ∧ (List.zipWith (fun entry exit => (⟨entry.1, exit.1, entry.2⟩ : Delivery α)) entries
            exits).map (fun delivery => (delivery.producer, delivery.value))
        = entries.take exits.length := by
  -- The exits are no more than the entries, so that the induction is on them.
  induction exits generalizing entries with
  | nil => cases entries <;> exact ⟨rfl, rfl⟩
  | cons exit rest ih =>
    cases entries with
    | nil => cases same
    | cons entry entries =>
      obtain ⟨value, later⟩ := List.cons.inj same
      obtain ⟨exits_eq, entries_eq⟩ := ih later
      refine ⟨?_, ?_⟩
      · rw [List.zipWith_cons_cons, List.map_cons, exits_eq]
        exact congrArg (· :: rest) (Prod.ext rfl value)
      · rw [List.zipWith_cons_cons, List.map_cons, entries_eq]
        rfl

/-- What a consumer gets from a producer comes in the order in which the producer stored it,
and in the order in which the consumer took it.
-/
theorem received_sublist {values : List α} {history : List (Turn α)}
    (exits
      : (deliveries values history).map (fun delivery => (delivery.consumer, delivery.value))
        = takenBy history)
    (entered
      : (deliveries values history).map (fun delivery => (delivery.producer, delivery.value))
        = (entries values history).take (takenBy history).length)
    (producer : Option Nat) (consumer : Nat)
    : (received values history producer consumer).Sublist (sent values history producer)
      ∧ (received values history producer consumer).Sublist
          (((takenBy history).filter fun exit => exit.1 == consumer).map Prod.snd) := by
  unfold received sent
  refine ⟨?_, ?_⟩
  · rw [← List.filter_filter]
    have part := ((List.filter_sublist (p := fun delivery => delivery.consumer == consumer)
      (l := deliveries values history)).filter
        fun delivery => delivery.producer == producer).map Delivery.value
    have all := ((List.take_sublist (takenBy history).length (entries values history)).filter
      fun entry => entry.1 == producer).map Prod.snd
    rw [← entered, List.filter_map, List.map_map] at all
    exact part.trans all
  · simp only [Bool.and_comm]
    rw [← List.filter_filter]
    have part := ((List.filter_sublist (p := fun delivery => delivery.producer == producer)
      (l := deliveries values history)).filter
        fun delivery => delivery.consumer == consumer).map Delivery.value
    rw [← exits, List.filter_map, List.map_map]
    exact part

end Queue

end Conduit
