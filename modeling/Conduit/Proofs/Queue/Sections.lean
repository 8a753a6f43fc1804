import Conduit.Proofs.Fifo
import Conduit.Ring.Lemmas

/-! What one attempt under the lock does, stated once for every operation.
On the elements it is one line of the operation table. In the bookkeeping it chooses as many
sleepers of a side as can go on, and it sends exactly the wakeups that it has counted.
-/

namespace Conduit

variable {α : Type}

theorem Ring.toList_eq_nil {ring : Ring α} (valid : ring.Valid)
    : ring.toList = [] ↔ ring.isEmpty = true := by
  rw [← List.length_eq_zero_iff, Ring.length_toList valid, Ring.isEmpty_iff valid]

theorem Waiters.choose_one (w : Waiters)
    : (0 < w.waiting ∧ min w.waiting 1 = 1) ∨ (¬ 0 < w.waiting ∧ min w.waiting 1 = 0) := by
  omega

-----------------------------------------------------------------------------------------
-- The state under the lock as a plain queue
-----------------------------------------------------------------------------------------

namespace Guarded

/-- The ring is intact and has the size that the settings ask for. -/
structure Sound (s : Guarded α) (config : Config) : Prop where
  valid : s.ring.Valid
  capacity : s.ring.capacity = config.capacity

/-- The elements in their order and the closed flag. -/
def fifo (s : Guarded α) (config : Config) : Fifo α :=
  { config, elements := s.ring.toList, closed := s.closed }

theorem Sound.isFull_iff {s : Guarded α} {config : Config} (sound : s.Sound config)
    : s.ring.isFull = true ↔ s.ring.toList.length = config.capacity := by
  rw [Ring.isFull_iff sound.valid, Ring.length_toList sound.valid, sound.capacity]

theorem Sound.isFull_eq {s : Guarded α} {config : Config} (sound : s.Sound config)
    : s.ring.isFull = (s.ring.toList.length == config.capacity) := by
  rw [Bool.eq_iff_iff, sound.isFull_iff, beq_iff_eq]

theorem Sound.isEmpty_eq {s : Guarded α} {config : Config} (sound : s.Sound config)
    : s.ring.isEmpty = s.ring.toList.isEmpty := by
  rw [Bool.eq_iff_iff, List.isEmpty_iff, Ring.toList_eq_nil sound.valid]

theorem Sound.length_le {s : Guarded α} {config : Config} (sound : s.Sound config)
    : s.ring.toList.length ≤ config.capacity := by
  rw [Ring.length_toList sound.valid, ← sound.capacity]
  exact Ring.length_le_capacity sound.valid

-----------------------------------------------------------------------------------------
-- Storing and taking elements
-----------------------------------------------------------------------------------------

/-- With room, a push appends its value and chooses at most one consumer. -/
theorem pushBack_of_room {s : Guarded α} {config : Config} (sound : s.Sound config)
    (room : s.ring.toList.length < config.capacity) (value : α)
    : s.pushBack value
      = { state :=
            { s with
              ring := s.ring.pushed value
              consumers := s.consumers.notify (min s.consumers.waiting 1) }
          wakes := List.replicate (min s.consumers.waiting 1) (.one .consumer)
          result := .ok () } := by
  have notFull : s.ring.isFull = false :=
    Bool.eq_false_iff.mpr fun full => by have := sound.isFull_iff.mp full; omega
  rcases s.consumers.choose_one with ⟨sleeper, one⟩ | ⟨nobody, zero⟩
  · simp only [pushBack, Ring.pushBack_of_not_full notFull, if_pos sleeper, one]
    rfl
  · simp only [pushBack, Ring.pushBack_of_not_full notFull, if_neg nobody, zero]
    rfl

theorem pushBack_of_full {s : Guarded α} {config : Config} (sound : s.Sound config)
    (full : ¬ s.ring.toList.length < config.capacity) (value : α)
    : s.pushBack value = s.keep (.error value) := by
  have isFull : s.ring.isFull = true :=
    sound.isFull_iff.mpr (Nat.le_antisymm sound.length_le (by omega))
  simp only [pushBack, Ring.pushBack_of_full isFull]

/-- A pop takes the head of the list and chooses at most one producer. -/
theorem popFront_of_cons {s : Guarded α} {config : Config} (sound : s.Sound config)
    {value : α} {rest : List α} (elements : s.ring.toList = value :: rest)
    : s.popFront
        = { state :=
              { s with
                ring := s.ring.popped
                producers := s.producers.notify (min s.producers.waiting 1) }
            wakes := List.replicate (min s.producers.waiting 1) (.one .producer)
            result := some value }
      ∧ s.ring.popped.Valid
      ∧ s.ring.popped.toList = rest := by
  have notEmpty : s.ring.isEmpty = false :=
    Bool.eq_false_iff.mpr fun empty => by
      simp [(Ring.toList_eq_nil sound.valid).mpr empty] at elements
  obtain ⟨first, pops, list⟩ := Ring.popFront?_eq sound.valid notEmpty
  obtain ⟨rfl, rfl⟩ := List.cons.inj (elements.symm.trans list)
  refine ⟨?_, Ring.valid_popped sound.valid notEmpty, rfl⟩
  rcases s.producers.choose_one with ⟨sleeper, one⟩ | ⟨nobody, zero⟩
  · simp only [popFront, pops, if_pos sleeper, one]
    rfl
  · simp only [popFront, pops, if_neg nobody, zero]
    rfl

theorem popFront_of_nil {s : Guarded α} {config : Config} (sound : s.Sound config)
    (elements : s.ring.toList = [])
    : s.popFront = s.keep none := by
  have empty := (Ring.toList_eq_nil sound.valid).mp elements
  simp only [popFront, Ring.popFront?_of_empty empty]

/-- A drain takes the whole list and chooses a producer for each element, if there are so
many.
-/
theorem drain_eq {s : Guarded α} {config : Config} (sound : s.Sound config)
    : ∃ last : Ring α,
        last.Valid
        ∧ last.capacity = config.capacity
        ∧ last.toList = []
        ∧ s.drain
          = { state :=
                { s with
                  ring := last
                  producers :=
                    s.producers.notify (min s.producers.waiting s.ring.toList.length) }
              wakes :=
                List.replicate (min s.producers.waiting s.ring.toList.length) (.one .producer)
              result := s.ring.toList } := by
  obtain ⟨last, drains, valid, none, same⟩ := Ring.drain_eq sound.valid
  refine ⟨last, valid, same.trans sound.capacity, ?_, ?_⟩
  · rw [Ring.toList_eq_nil valid, Ring.isEmpty_iff valid, none]
  · simp only [drain, drains]

-----------------------------------------------------------------------------------------
-- One attempt of an operation
-----------------------------------------------------------------------------------------

end Guarded

/-- The bookkeeping of a side after an attempt: its caller joins the sleepers, or as many
sleepers are chosen as can go on because of the answer.
-/
def Waiters.after (w : Waiters) (side : Side) : Outcome α → Waiters
  | .answered answer => w.notify (min w.waiting (answer.admits side))
  | .waits slept _ => if slept = side then w.park else w

/-- A stretch of work as the operation table sees it. -/
def Section.response (done : Section α (Outcome α)) (config : Config) : Fifo.Response α :=
  match done.result with
  | .answered answer => .answers answer (done.state.fifo config)
  | .waits side _ => .waits side

namespace Guarded

/-- The wakeups that an attempt sends: everybody when it closes, else one for each sleeper it
has chosen.
-/
def wakesOf (s : Guarded α) (operation : Operation α) : Outcome α → List Wake
  | .waits .. => []
  | .answered answer =>
    if operation.isClose then [.all .consumer, .all .producer]
    else
      List.replicate (min s.producers.waiting (answer.admits .producer)) (.one .producer)
        ++ List.replicate (min s.consumers.waiting (answer.admits .consumer)) (.one .consumer)

/-- The events that an attempt reports. -/
def eventsOf (s : Guarded α) (config : Config) : Outcome α → List Event
  | .answered (.push (.error (.timedOut _))) => [.pushExpired config.label]
  | .answered (.pop (.error .timedOut)) => [.popExpired config.label]
  | .answered .done => if s.closed then [] else [.closed config.label s.ring.length]
  | _ => []

/-- What one attempt leaves behind. Elements and closed flag follow the operation table, a
caller that has to wait changes neither, and bookkeeping, wakeups and events are functions of
the state before and the result.
-/
structure Attempted (s : Guarded α) (config : Config) (deadline : Option Nat) (now : Nat)
    (operation : Operation α) (done : Section α (Outcome α))
    : Prop where
  sound : done.state.Sound config
  response
    : (s.fifo config).serve (expired deadline now) operation = done.response config
  kept
    : ∀ {side time},
        done.result = .waits side time
        → done.state.ring = s.ring
          ∧ done.state.closed = s.closed
          ∧ time = remaining deadline now
  waiters : ∀ side, done.state.waiters side = (s.waiters side).after side done.result
  wakes : done.wakes = s.wakesOf operation done.result
  events : done.events = s.eventsOf config done.result

section
variable {s : Guarded α} {config : Config} {deadline : Option Nat} {now : Nat}
  {operation : Operation α}

/-- An answer that moves no value leaves the state as it is. -/
theorem Attempted.of_kept (sound : s.Sound config) (answer : Answer α)
    {done : Section α (Outcome α)}
    (same
      : done
        = { state := s
            events := s.eventsOf config (.answered answer)
            result := .answered answer })
    (response
      : (s.fifo config).serve (expired deadline now) operation
        = .answers answer (s.fifo config))
    (refused : answer.isAccepted = false) (nothing : answer.handedOut = [])
    (stays : operation.isClose = false)
    : Attempted s config deadline now operation done := by
  subst same
  refine ⟨sound, response, (fun waits => by cases waits), ?_, ?_, rfl⟩
  · intro side
    cases side <;> simp [Waiters.after, Waiters.notify, Answer.admits, refused, nothing]
  · simp [wakesOf, Answer.admits, refused, nothing, stays]

/-- A caller that has to wait joins the sleepers of its side and changes nothing else. -/
theorem Attempted.of_waits (sound : s.Sound config) {side : Side}
    (response
      : (s.fifo config).serve (expired deadline now) operation = .waits side)
    : Attempted s config deadline now operation
        ((s.park side).keep (.waits side (remaining deadline now))) where
  sound := by cases side <;> exact ⟨sound.valid, sound.capacity⟩
  response := response
  kept waits := by cases side <;> cases waits <;> exact ⟨rfl, rfl, rfl⟩
  waiters other := by cases side <;> cases other <;> rfl
  wakes := rfl
  events := rfl

theorem Attempted.of_pushed (sound : s.Sound config) (isOpen : s.closed = false)
    {value : α} (room : s.ring.toList.length < config.capacity)
    {otherwise : Fifo.Response α}
    (response
      : (s.fifo config).serve (expired deadline now) operation
        = (s.fifo config).push value otherwise)
    (stays : operation.isClose = false)
    : Attempted s config deadline now operation
        ((s.pushBack value).map fun _ => .answered (.push (.ok ()))) := by
  have notFull : s.ring.isFull = false :=
    Bool.eq_false_iff.mpr fun full => by have := sound.isFull_iff.mp full; omega
  rw [pushBack_of_room sound room]
  refine ⟨⟨Ring.valid_pushed sound.valid notFull value, sound.capacity⟩, ?_,
    (fun waits => by cases waits), ?_, ?_, rfl⟩
  · rw [response]
    simp [Fifo.push, fifo, isOpen, room, Section.response, Section.map,
      Ring.toList_pushed sound.valid notFull]
  · intro side
    cases side <;>
      simp [Guarded.waiters, Waiters.after, Waiters.notify, Section.map, Answer.admits,
        Answer.isAccepted, Answer.handedOut]
  · simp [wakesOf, stays, Section.map, Answer.admits, Answer.isAccepted, Answer.handedOut]

theorem Attempted.of_popped (sound : s.Sound config) {value : α} {rest : List α}
    (elements : s.ring.toList = value :: rest) {otherwise : Fifo.Response α}
    (response
      : (s.fifo config).serve (expired deadline now) operation
        = (s.fifo config).pop otherwise)
    (stays : operation.isClose = false)
    : Attempted s config deadline now operation
        (s.popFront.map fun _ => .answered (.pop (.ok value))) := by
  obtain ⟨pops, valid, left⟩ := popFront_of_cons sound elements
  rw [pops]
  refine ⟨⟨valid, sound.capacity⟩, ?_, (fun waits => by cases waits), ?_, ?_, rfl⟩
  · rw [response]
    simp [Fifo.pop, fifo, elements, Section.response, Section.map, left]
  · intro side
    cases side <;>
      simp [Guarded.waiters, Waiters.after, Waiters.notify, Section.map, Answer.admits,
        Answer.isAccepted, Answer.handedOut]
  · simp [wakesOf, stays, Section.map, Answer.admits, Answer.isAccepted, Answer.handedOut]

/-- A push that does not wait, by whether the queue is closed, has room, or is full. -/
theorem offer_attempted (sound : s.Sound config) {value : α}
    (response
      : (s.fifo config).serve (expired deadline now) operation
        = (s.fifo config).push value
            (.answers (.push (.error (.full value))) (s.fifo config)))
    (stays : operation.isClose = false)
    : Attempted s config deadline now operation
        ((s.offer value).map fun result => .answered (.push result)) := by
  by_cases closed : s.closed = true
  · refine .of_kept sound (.push (.error (.closed value))) ?_ ?_ rfl rfl stays
    · simp only [offer, if_pos closed]
      rfl
    · rw [response]
      simp only [Fifo.push, fifo, closed, if_true]
  · have isOpen : s.closed = false := Bool.eq_false_iff.mpr closed
    by_cases room : s.ring.toList.length < config.capacity
    · have pushed := Attempted.of_pushed sound isOpen room response stays
      rw [pushBack_of_room sound room] at pushed
      simp only [offer, if_neg closed, pushBack_of_room sound room]
      exact pushed
    · refine .of_kept sound (.push (.error (.full value))) ?_ ?_ rfl rfl stays
      · simp only [offer, if_neg closed, pushBack_of_full sound room]
        rfl
      · rw [response]
        simp only [Fifo.push, fifo, isOpen, room, if_false, Bool.false_eq_true]

/-- A pop that does not wait, by whether there is an element and whether the queue is closed.
-/
theorem take_attempted (sound : s.Sound config)
    (response
      : (s.fifo config).serve (expired deadline now) operation
        = (s.fifo config).pop (.answers (.pop (.error .empty)) (s.fifo config)))
    (stays : operation.isClose = false)
    : Attempted s config deadline now operation
        (s.take.map fun result => .answered (.pop result)) := by
  cases elements : s.ring.toList with
  | cons value rest =>
    have popped := Attempted.of_popped sound elements response stays
    rw [(popFront_of_cons sound elements).1] at popped
    simp only [take, (popFront_of_cons sound elements).1]
    exact popped
  | nil =>
    have takes : s.take = s.keep (.error (if s.closed then .closed else .empty)) := by
      simp only [take, popFront_of_nil sound elements]
      rfl
    rw [takes]
    cases closed : s.closed with
    | true =>
      refine .of_kept sound (.pop (.error .closed)) rfl ?_ rfl rfl stays
      rw [response]
      simp only [Fifo.pop, fifo, elements, closed, if_true]
    | false =>
      refine .of_kept sound (.pop (.error .empty)) rfl ?_ rfl rfl stays
      rw [response]
      simp only [Fifo.pop, fifo, elements, closed, if_false, Bool.false_eq_true]

/-- A push that may wait, by whether the queue is closed, has room, or is full and the time
has expired.
-/
theorem pushUntil_attempted (sound : s.Sound config) (value : α) (timeout : Timeout)
    : Attempted s config deadline now (.waitPush value timeout)
        (s.pushUntil config.label deadline now value) := by
  by_cases closed : s.closed = true
  · refine .of_kept sound (.push (.error (.closed value))) ?_ ?_ rfl rfl rfl
    · simp only [pushUntil, if_pos closed]
      rfl
    · simp only [Fifo.serve, Fifo.push, fifo, closed, if_true]
  · have isOpen : s.closed = false := Bool.eq_false_iff.mpr closed
    by_cases room : s.ring.toList.length < config.capacity
    · have pushed : Attempted s config deadline now (.waitPush value timeout) _ :=
        .of_pushed sound isOpen room rfl rfl
      rw [pushBack_of_room sound room] at pushed
      simp only [pushUntil, if_neg closed, pushBack_of_room sound room]
      exact pushed
    · simp only [pushUntil, if_neg closed, pushBack_of_full sound room]
      cases late : expired deadline now with
      | true =>
        refine .of_kept sound (.push (.error (.timedOut value))) rfl ?_ rfl rfl rfl
        simp only [Fifo.serve, Fifo.push, fifo, isOpen, room, late, if_true, if_false,
          Bool.false_eq_true]
      | false =>
        refine .of_waits sound ?_
        simp only [Fifo.serve, Fifo.push, fifo, isOpen, room, late, if_false,
          Bool.false_eq_true]

/-- A pop that may wait, by whether there is an element, the queue is closed, or the time has
expired.
-/
theorem popUntil_attempted (sound : s.Sound config) (timeout : Timeout)
    : Attempted s config deadline now (.waitPop timeout)
        (s.popUntil config.label deadline now) := by
  cases elements : s.ring.toList with
  | cons value rest =>
    have popped : Attempted s config deadline now (.waitPop timeout) _ :=
      .of_popped sound elements rfl rfl
    rw [(popFront_of_cons sound elements).1] at popped
    simp only [popUntil, (popFront_of_cons sound elements).1]
    exact popped
  | nil =>
    simp only [popUntil, popFront_of_nil sound elements]
    cases closed : s.closed with
    | true =>
      refine .of_kept sound (.pop (.error .closed)) rfl ?_ rfl rfl rfl
      simp only [Fifo.serve, Fifo.pop, fifo, elements, closed, if_true]
    | false =>
      cases late : expired deadline now with
      | true =>
        refine .of_kept sound (.pop (.error .timedOut)) rfl ?_ rfl rfl rfl
        simp only [Fifo.serve, Fifo.pop, fifo, elements, closed, late, if_true, if_false,
          Bool.false_eq_true]
      | false =>
        refine .of_waits sound ?_
        simp only [Fifo.serve, Fifo.pop, fifo, elements, closed, late, if_false,
          Bool.false_eq_true]

theorem drain_attempted (sound : s.Sound config)
    : Attempted s config deadline now .drain
        (s.drain.map fun values => .answered (.drained values)) := by
  obtain ⟨last, valid, same, left, drains⟩ := drain_eq sound
  rw [drains]
  refine ⟨⟨valid, same⟩, ?_, (fun waits => by cases waits), ?_, ?_, rfl⟩
  · simp only [Fifo.serve, fifo, Section.response, Section.map, left]
  · intro side
    cases side <;>
      simp [Guarded.waiters, Waiters.after, Waiters.notify, Section.map, Answer.admits,
        Answer.isAccepted, Answer.handedOut]
  · simp [wakesOf, Operation.isClose, Section.map, Answer.admits, Answer.isAccepted,
      Answer.handedOut]

/-- A close marks the queue and wakes everybody; it chooses nobody. -/
theorem closeReporting_attempted (sound : s.Sound config)
    : Attempted s config deadline now .close (s.closeReporting config.label) := by
  refine ⟨⟨sound.valid, sound.capacity⟩, rfl, (fun waits => by cases waits), ?_, rfl, ?_⟩
  · intro side
    cases side <;>
      simp [closeReporting, close, Section.andThen, Guarded.waiters, Waiters.after,
        Waiters.notify, Answer.admits, Answer.isAccepted, Answer.handedOut]
  · cases closed : s.closed <;>
      simp [closeReporting, close, Section.andThen, eventsOf, closed]

/-- Every attempt is one line of the table, by cases on the operation. -/
theorem attempt_attempted (sound : s.Sound config) (deadline : Option Nat) (now : Nat)
    (operation : Operation α)
    : Attempted s config deadline now operation
        (s.attempt config deadline now operation) := by
  cases operation with
  | waitPush value timeout => exact pushUntil_attempted sound value timeout
  | tryPush value | nonblockingPush value => exact offer_attempted sound rfl rfl
  | waitPop timeout => exact popUntil_attempted sound timeout
  | tryPop | nonblockingPop => exact take_attempted sound rfl rfl
  | drain => exact drain_attempted sound
  | close => exact closeReporting_attempted sound
  | isClosed => exact .of_kept sound (.flag s.closed) rfl rfl rfl rfl rfl
  | isEmpty =>
    refine .of_kept sound (.flag s.ring.isEmpty) rfl ?_ rfl rfl rfl
    simp only [Fifo.serve, fifo, sound.isEmpty_eq]
  | isFull =>
    refine .of_kept sound (.flag s.ring.isFull) rfl ?_ rfl rfl rfl
    simp only [Fifo.serve, fifo, sound.isFull_eq]
  | length =>
    refine .of_kept sound (.count s.ring.length) rfl ?_ rfl rfl rfl
    simp only [Fifo.serve, fifo, Ring.length_toList sound.valid]
  | inspect property =>
    cases property <;> exact .of_kept sound (config.inspect _) rfl rfl rfl rfl rfl

end

end Guarded

end Conduit
