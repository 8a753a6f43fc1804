import Conduit.Proofs.World.Mirrors
import Conduit.Proofs.World.Tasks

/-! Programs that get to their queues by different routes.
Every route leads to the methods of the queue itself, so that neither a program nor a queue
can tell by which of them a call has gone. An end that does not say why a call of it has
failed hides nothing: a call that may wait for ever fails for one reason only, and that is
what it has met.
-/

namespace Conduit

variable {σ α : Type}

-----------------------------------------------------------------------------------------
-- Clients
-----------------------------------------------------------------------------------------

/-- A call at an end of a queue. -/
inductive EndCall (α : Type)
  | waitPush (value : α)
  | tryPush (value : α)
  | push (value : α)
  | close
  | backIsClosed
  | waitPop
  | tryPop
  | valuePop
  | frontIsClosed
  | isEmpty

/-- The method that a call comes to by a route. -/
def EndCall.method (call : EndCall α) (route : Route) : Method α :=
  match call with
  | waitPush value => route.back.waitPush value
  | tryPush value => route.back.tryPush value
  | push value => route.back.push value
  | close => route.back.close
  | backIsClosed => route.back.isClosed
  | waitPop => route.front.waitPop
  | tryPop => route.front.tryPop
  | valuePop => route.front.valuePop
  | frontIsClosed => route.front.isClosed
  | isEmpty => route.front.isEmpty

/-- What a client does next. -/
inductive Wish (α : Type)
  | call (queue : Nat) (call : EndCall α) (alreadyFailing : Bool)
  /-- It hands every element of a queue to a function, up to the end of the stream. -/
  | drain (queue : Nat)
  /-- The function has done with its element, and the innermost drain goes on. -/
  | goOn

/-- What a client hears of what it has asked for. -/
inductive Heard (α : Type)
  | handed (value : α)
  | ended (report : Report α)

/-- Any program of calls at the ends of queues: what it does next, how it goes on, and how
many of its drains are over before it goes on, since their functions have failed.
-/
structure Client (σ α : Type) where
  next? : σ → Option (Wish α)
  hear : σ → Heard α → σ
  failed : σ → Nat

/-- A drain in progress: the number of the answer that it began after, its queue, and the
elements that it has handed over.
-/
structure Drain (α : Type) where
  number : Nat
  queue : Nat
  count : Nat := 0
  seen : List α := []

/-- A client at work, with the route that each of its calls takes: a call is known by the
number of answers before it. The innermost drain comes first.
-/
structure Caller (σ α : Type) where
  client : σ
  routes : Nat → Route
  answers : Nat := 0
  drains : List (Drain α) := []

/-- What a client hears when a task of it has come so far. -/
def Task.heard? : Task α → Option (Heard α)
  | drain _ _ _ _ seen => seen.getLast?.map .handed
  | finished report => some (.ended report)
  | _ => none

namespace Drain

def task (drain : Drain α) (routes : Nat → Route) : Task α :=
  .drain drain.queue (routes drain.number).front.waitPop none drain.count drain.seen

/-- The drain when its task has come so far, unless that has ended. -/
def after (drain : Drain α) : Task α → Option (Drain α)
  | .drain _ _ _ count seen => some { drain with count, seen }
  | _ => none

end Drain

namespace Client

variable (client : Client σ α)

/-- The drains that are still in progress. -/
def drains (caller : Caller σ α) : List (Drain α) :=
  caller.drains.drop (client.failed caller.client)

/-- The drain that a wish begins or goes on with. -/
def drain? (caller : Caller σ α) : Wish α → Option (Drain α)
  | .call .. => none
  | .drain queue => some { number := caller.answers, queue }
  | .goOn => (client.drains caller).head?

/-- The drains around it. -/
def around (caller : Caller σ α) : Wish α → List (Drain α)
  | .goOn => (client.drains caller).tail
  | _ => client.drains caller

/-- The task that a wish comes down to. -/
def task? (caller : Caller σ α) : Wish α → Option (Task α)
  | .call queue call alreadyFailing =>
    some (.call queue (call.method (caller.routes caller.answers)) alreadyFailing)
  | wish => (client.drain? caller wish).map (·.task caller.routes)

def request? (caller : Caller σ α) : Option (Request α) := do
  let wish ← client.next? caller.client
  let task ← client.task? caller wish
  task.request?

def resume (caller : Caller σ α) (answer : Answer α) : Caller σ α :=
  match client.next? caller.client with
  | none => caller
  | some wish =>
    match client.task? caller wish with
    | none => caller
    | some task =>
      let later := task.resume answer
      { caller with
        client := later.heard?.elim caller.client (client.hear caller.client)
        answers := caller.answers + 1
        drains :=
          ((client.drain? caller wish).bind (·.after later)).toList
            ++ client.around caller wish }

def program : Program (Caller σ α) α :=
  { request? := client.request?, resume := client.resume }

end Client

-----------------------------------------------------------------------------------------
-- Other routes
-----------------------------------------------------------------------------------------

/-- By every route a call comes to the same method. -/
theorem EndCall.method_eq (call : EndCall α) (route other : Route)
    : call.method route = call.method other := by
  cases call <;> simp only [method, Route.back_eq, Route.front_eq]

theorem Drain.task_eq (drain : Drain α) (routes other : Nat → Route)
    : drain.task routes = drain.task other := by
  simp only [task, Route.front_waitPop]

/-- The same client at the same point, whose calls take other routes. -/
def Caller.Rerouted (caller other : Caller σ α) : Prop :=
  other = { caller with routes := other.routes }

namespace Client

variable (client : Client σ α)

theorem task?_rerouted (caller : Caller σ α) (routes : Nat → Route) (wish : Wish α)
    : client.task? { caller with routes } wish = client.task? caller wish := by
  have drains : ∀ drain : Drain α, drain.task routes = drain.task caller.routes :=
    fun drain => drain.task_eq routes caller.routes
  cases wish with
  | call queue call alreadyFailing =>
    exact congrArg (fun method => some (Task.call queue method alreadyFailing))
      (call.method_eq _ _)
  | drain | goOn =>
    simp only [task?, drains]
    rfl

/-- No client can tell which routes its calls take, nor can the queues that it calls. -/
theorem mirrors : client.program.Mirrors client.program fun _ => Caller.Rerouted where
  asks := by
    intro _ caller other same
    rw [same]
    simp only [program, request?, task?_rerouted]
  resumes := by
    intro _ caller other same answer
    rw [same]
    simp only [Caller.Rerouted, program, resume, task?_rerouted]
    cases client.next? caller.client with
    | none => rfl
    | some wish =>
      cases found : client.task? caller wish with
      | none => simp only [found]
      | some task => cases wish <;> simp only [found] <;> rfl

theorem asks {client : Client σ α} {caller : Caller σ α} {request : Request α}
    (asks : client.program.request? caller = some request)
    : ∃ wish task,
        client.next? caller.client = some wish
        ∧ client.task? caller wish = some task
        ∧ task.request? = some request := by
  obtain ⟨wish, wants, task, comes, asks⟩ := by
    simpa only [program, Client.request?, Option.bind_eq_bind, Option.bind_eq_some_iff]
      using asks
  exact ⟨wish, task, wants, comes, asks⟩

end Client

-----------------------------------------------------------------------------------------
-- The stretch of work that an answer comes from
-----------------------------------------------------------------------------------------

/-- A push that ends with its value stored or refused, just as the list has it. -/
structure Fifo.SettlesPush (met : Fifo α) (stored refused : Prop) : Prop where
  only : stored ∨ refused
  stored : stored ↔ met.closed = false
  refused : refused ↔ met.closed = true

/-- A pop that ends with an element or the end of the stream, just as the list has it. -/
structure Fifo.SettlesPop (met : Fifo α) (given : α → Prop) (ended : Prop) : Prop where
  only : (∃ value, given value) ∨ ended
  given : ∀ value, given value ↔ ∃ rest, met.elements = value :: rest
  ended : ended ↔ met.elements = [] ∧ met.closed = true

namespace Fifo

variable {met after : Fifo α} {answer : Answer α}

theorem SettlesPush.accepts (isOpen : met.closed = false) {stored refused : Prop}
    (stores : stored) (other : ¬refused)
    : met.SettlesPush stored refused where
  only := Or.inl stores
  stored := iff_of_true stores isOpen
  refused := iff_of_false other (by simp [isOpen])

theorem SettlesPush.refuses (closed : met.closed = true) {stored refused : Prop}
    (refuses : refused) (other : ¬stored)
    : met.SettlesPush stored refused where
  only := Or.inr refuses
  stored := iff_of_false other (by simp [closed])
  refused := iff_of_true refuses closed

theorem SettlesPop.gives {value : α} {rest : List α} (elements : met.elements = value :: rest)
    {given : α → Prop} {ended : Prop} (gives : ∀ other, given other ↔ value = other)
    (other : ¬ended)
    : met.SettlesPop given ended where
  only := Or.inl ⟨value, (gives value).mpr rfl⟩
  given := by
    intro other
    simp [gives, elements]
  ended := iff_of_false other (by simp [elements])

theorem SettlesPop.ends (elements : met.elements = []) (closed : met.closed = true)
    {given : α → Prop} {ended : Prop} (ends : ended) (none : ∀ value, ¬given value)
    : met.SettlesPop given ended where
  only := Or.inr ends
  given := by
    intro value
    exact iff_of_false (none value) (by simp [elements])
  ended := iff_of_true ends ⟨elements, closed⟩

/-- A push that has no deadline ends in one of two ways. -/
theorem waitPush_cases {value : α} {timeout : Timeout}
    (served : met.serve false (.waitPush value timeout) = .answers answer after)
    : answer = .push (.ok ()) ∧ met.closed = false
      ∨ answer = .push (.error (.closed value)) ∧ met.closed = true := by
  simp only [serve, push] at served
  split at served
  · rename_i closed
    exact Or.inr ⟨(Response.answers.inj served).1.symm, closed⟩
  · rename_i notClosed
    split at served
    · exact Or.inl ⟨(Response.answers.inj served).1.symm, Bool.eq_false_iff.mpr notClosed⟩
    · cases served

/-- So does a pop. -/
theorem waitPop_cases {timeout : Timeout}
    (served : met.serve false (.waitPop timeout) = .answers answer after)
    : (∃ value rest, answer = .pop (.ok value) ∧ met.elements = value :: rest)
      ∨ answer = .pop (.error .closed) ∧ met.elements = [] ∧ met.closed = true := by
  simp only [serve, pop] at served
  split at served
  · rename_i value rest elements
    exact Or.inl ⟨value, rest, (Response.answers.inj served).1.symm, elements⟩
  · rename_i elements
    split at served
    · rename_i closed
      exact Or.inr ⟨(Response.answers.inj served).1.symm, elements, closed⟩
    · cases served

end Fifo

namespace Queue

/-- When the thread had the lock for the last time, in the run `history` from `start`, it
met the queue `met`, and its work on the operation ended with this answer.
-/
def AnsweredAt (start : Queue α) (history : List (Turn α)) (thread : Nat)
    (operation : Operation α) (answer : Answer α) (met : Queue α)
    : Prop :=
  ∃ early entry others,
    history = early ++ entry :: others
    ∧ Run start early met
    ∧ met.holder = none
    ∧ met.step? entry.now entry.thread entry.move = some entry.progress
    ∧ entry.thread = thread
    ∧ entry.settles? = some (operation, answer)
    ∧ ∀ turn ∈ others, turn.thread ≠ thread

/-- An answer stands in the operation table for the list that its thread has met when it had
the lock for the last time, unless the sink has failed.
-/
theorem Run.answeredAt {slotBytes threads : Nat} {clock : Clock} {config : Config}
    {values : List α}
    {fresh q : Queue α} {history : List (Turn α)}
    (created : (ofConfigAndItems slotBytes config (.ofList values)).result = .ok fresh)
    (run : Run (fresh.withThreads clock threads) history q) {thread : Nat} {call : Call α}
    {answer : Answer α} {reporting : Bool}
    (inside : q.phase? thread = some (.inside call (.answered answer) reporting))
    (healthy : answer ≠ .sinkFailed) (unlimited : call.operation.timeout = .infinite)
    : ∃ met after,
        AnsweredAt (fresh.withThreads clock threads) history thread call.operation answer met
        ∧ met.fifo.serve false call.operation = .answers answer after := by
  obtain ⟨early, entry, others, met, split, first, made, free, ⟨preferred, enters⟩, own, phase,
    _, away⟩ := run.entry created inside
  have settles : entry.settles? = some (call.operation, answer) := by
    rw [← own] at phase
    simp only [Turn.settles?, enters, phase]
  obtain ⟨old, deadline, found, asks, lost | served⟩ :=
    (first.orderly created).settled made settles
  · exact absurd lost healthy
  · obtain ⟨begun, _, _, _, ends⟩ := first.terms_begun found asks
    simp only [unlimited] at ends
    rw [ends] at served
    exact ⟨met, _, ⟨early, entry, others, split, first, free, made, own, settles, away⟩,
      served⟩

end Queue

namespace World

/-- The answer of a call that may wait for ever is the one for the list that its thread has
met when it had the lock for the last time, if nobody stumbles over a poisoned lock.
-/
theorem Run.answeredAt {p : Program σ α} {start w after : World σ α}
    {history : List (Happening α)} (run : Run p start history w) {program : σ}
    {queue : Queue α} {happening : Happening α} {values : List α}
    (opens : start.Opens happening.request.queue values)
    (steady : Steady (turnsAt history happening.request.queue))
    (acts : w.Acts p program queue happening after) {answer : Answer α}
    (answered : happening.turn.progress.answer = some answer)
    (waits : happening.request.operation.side?.isSome = true)
    (unlimited : happening.request.operation.timeout = .infinite)
    : ∃ first met next,
        start.queues[happening.request.queue]? = some first
        ∧ Queue.AnsweredAt first (turnsAt history happening.request.queue)
            happening.turn.thread happening.request.operation answer met
        ∧ met.fifo.serve false happening.request.operation = .answers answer next := by
  obtain ⟨side, waits⟩ := Option.isSome_iff_exists.mp waits
  have healthy : answer ≠ .sinkFailed := by
    rintro rfl
    exact steady.never _ (run.stumbled_of_sinkFailed opens acts answered waits unlimited)
  obtain ⟨⟨call, reporting, inside, asks⟩, _⟩ :=
    run.leaves_of_waiter opens acts answered healthy waits
  obtain ⟨_, _, fresh, _, created, found⟩ := opens
  obtain ⟨last, here, inner⟩ := run.queue found
  obtain rfl := Option.some.inj (acts.found.symm.trans here)
  rw [← asks] at unlimited ⊢
  obtain ⟨met, next, settled, served⟩ := inner.answeredAt created inside healthy unlimited
  exact ⟨_, met, next, found, settled, served⟩

end World

-----------------------------------------------------------------------------------------
-- What a client hears
-----------------------------------------------------------------------------------------

/-- What a client hears of a call that may wait for ever is just what the list has to say
that the call has met: a push is refused, with its value, if and only if the list is closed,
and a pop ends the stream if and only if the list is closed and empty.
-/
def Wish.Tells (wish : Wish α) (met : Fifo α) (heard? : Option (Heard α)) : Prop :=
  let told (answer : Answer α) : Prop := heard? = some (.ended (.answered answer))
  match wish with
  | .call _ (.waitPush value) _ =>
    met.SettlesPush (told (.push (.ok ()))) (told (.push (.error (.closed value))))
  | .call _ (.push value) _ =>
    met.SettlesPush (told (.offered (.ok ()))) (told (.offered (.error ⟨value⟩)))
  | .call _ .waitPop _ =>
    met.SettlesPop (fun value => told (.pop (.ok value))) (told (.pop (.error .closed)))
  | .call _ .valuePop _ =>
    met.SettlesPop (fun value => told (.received (.ok value))) (told (.received (.error ⟨()⟩)))
  | .drain _ | .goOn =>
    met.SettlesPop (fun value => heard? = some (.handed value))
      (∃ count seen, heard? = some (.ended (.drained count seen)))
  | _ => True

namespace Client

variable {client : Client σ α} {caller : Caller σ α} {wish : Wish α} {task : Task α}
  {request : Request α}

/-- A task of a client is a call of the queue itself, or a consumer that takes everything. -/
theorem task?_cases (comes : client.task? caller wish = some task)
    : (∃ queue call failing,
        wish = .call queue call failing ∧ task = .call queue (call.method .own) failing)
      ∨ (wish = .goOn ∨ ∃ queue, wish = .drain queue)
        ∧ ∃ queue count seen,
          task = .drain queue ⟨.waitPop .infinite, id⟩ none count seen := by
  have drains
      : (client.drain? caller wish).map (·.task caller.routes) = some task
        → ∃ queue count seen,
          task = .drain queue ⟨.waitPop .infinite, id⟩ none count seen := by
    intro comes
    obtain ⟨drain, _, rfl⟩ := Option.map_eq_some_iff.mp comes
    exact ⟨drain.queue, drain.count, drain.seen, by rw [Drain.task, Route.front_waitPop]⟩
  cases wish with
  | call queue call failing =>
    obtain rfl := Option.some.inj comes
    exact Or.inl ⟨queue, call, failing, rfl, by rw [call.method_eq _ .own]⟩
  | drain queue => exact Or.inr ⟨Or.inr ⟨queue, rfl⟩, drains comes⟩
  | goOn => exact Or.inr ⟨Or.inl rfl, drains comes⟩

/-- No end has calls with a deadline. -/
theorem unlimited (comes : client.task? caller wish = some task)
    (asks : task.request? = some request)
    : request.operation.timeout = .infinite := by
  rcases task?_cases comes with ⟨queue, call, failing, _, rfl⟩ | ⟨_, queue, count, seen, rfl⟩
  · obtain rfl := Option.some.inj asks
    cases call <;> rfl
  · obtain rfl := Option.some.inj asks
    rfl

theorem request_unlimited {client : Client σ α} {caller : Caller σ α} {request : Request α}
    (asks : client.program.request? caller = some request)
    : request.operation.timeout = .infinite := by
  obtain ⟨wish, task, _, comes, asks⟩ := Client.asks asks
  exact unlimited comes asks

/-- What a client hears is what the list has to say, by cases on the call. -/
theorem tells (comes : client.task? caller wish = some task)
    (asks : task.request? = some request) {met next : Fifo α} {answer : Answer α}
    (served : met.serve false request.operation = .answers answer next)
    : wish.Tells met (task.resume answer).heard? := by
  rcases task?_cases comes with
    ⟨queue, call, failing, rfl, rfl⟩ | ⟨wishes, queue, count, seen, rfl⟩
  · obtain rfl := Option.some.inj asks
    cases call with
    | waitPush value | push value =>
      rcases Fifo.waitPush_cases served with ⟨rfl, isOpen⟩ | ⟨rfl, closed⟩
      · exact .accepts isOpen rfl fun refused => by cases refused
      · exact .refuses closed rfl fun stored => by cases stored
    | waitPop | valuePop =>
      rcases Fifo.waitPop_cases served with ⟨value, rest, rfl, elements⟩ | ⟨rfl, empty, closed⟩
      · refine .gives elements (fun other => ?_) fun ended => by cases ended
        constructor <;> rintro ⟨⟩ <;> rfl
      · exact .ends empty closed rfl fun _ given => by cases given
    | _ => trivial
  · obtain rfl := Option.some.inj asks
    have settles
        : Wish.goOn.Tells met
            (Task.resume (.drain queue ⟨.waitPop .infinite, id⟩ none count seen)
              answer).heard? := by
      rcases Fifo.waitPop_cases served with ⟨value, rest, rfl, elements⟩ | ⟨rfl, empty, closed⟩
      · refine .gives elements ?_ ?_
        · intro other
          simp [Task.resume, Task.resumeDrain, Task.heard?]
        · rintro ⟨_, _, ended⟩
          simp [Task.resume, Task.resumeDrain, Task.heard?] at ended
      · exact .ends empty closed ⟨count, seen, rfl⟩ fun _ given => by cases given
    rcases wishes with rfl | ⟨queue, rfl⟩
    · exact settles
    · exact settles

/-- A drain that has ended has been told of the end of the stream. -/
theorem closed_of_drained (comes : client.task? caller wish = some task)
    (asks : task.request? = some request) {answer : Answer α}
    (ends
      : request.operation = .waitPop .infinite
        → (∃ value, answer = .pop (.ok value)) ∨ answer = .pop (.error .closed))
    {count : Nat} {seen : List α}
    (drained : (task.resume answer).heard? = some (.ended (.drained count seen)))
    : answer = .pop (.error .closed) := by
  rcases task?_cases comes with ⟨queue, call, failing, _, rfl⟩ | ⟨_, queue, count, seen, rfl⟩
  · cases drained
  · obtain rfl := Option.some.inj asks
    rcases ends rfl with ⟨value, rfl⟩ | closed
    · simp [Task.resume, Task.resumeDrain, Task.heard?] at drained
    · exact closed

end Client

-----------------------------------------------------------------------------------------
-- Clients on any routes
-----------------------------------------------------------------------------------------

namespace World

/-- What holds of clients that have come from `start` to `w`. They could have taken any
other routes: all that has happened would have happened, with the same answers, and they and
the queues would be where they are. And what a client hears in the next step is just what
its call has met: no push is refused at an open queue, and no pop ends at one that is open
or not empty.
-/
structure Faithful (client : Client σ α) (start : World (Caller σ α) α)
    (history : List (Happening α)) (w : World (Caller σ α) α)
    : Prop where
  reroutes
    : ∀ {start'},
        start.Mirrored (fun _ => Caller.Rerouted) start'
        → ∃ w',
          Run client.program start' history w'
          ∧ w.Mirrored (fun _ => Caller.Rerouted) w'
  tells
    : ∀ {thread action after happening answer values},
        w.step? client.program thread action = some after
        → w.happening? client.program thread action = some happening
        → happening.turn.progress.answer = some answer
        → start.Opens happening.request.queue values
        → ∃ caller wish task,
          w.programs[thread]? = some caller
          ∧ client.next? caller.client = some wish
          ∧ client.task? caller wish = some task
          ∧ task.request? = some happening.request
          ∧ after.programs[thread]? = some (client.resume caller answer)
          ∧ (happening.request.operation.side?.isSome = true
            → ∃ first met,
              start.queues[happening.request.queue]? = some first
              ∧ Queue.AnsweredAt first (turnsAt history happening.request.queue) thread
                  happening.request.operation answer met
              ∧ wish.Tells met.fifo (task.resume answer).heard?)
          ∧ ∀ {count seen},
            (task.resume answer).heard? = some (.ended (.drained count seen))
            → ∃ queue,
              after.queues[happening.request.queue]? = some queue
              ∧ queue.Exhausted values
                  (turnsAt (history ++ [happening]) happening.request.queue)

/-- For every client on any number of threads, in every run: the routes of its calls make no
difference, and what it hears is true; witness: each route leads to the methods of the
queue, and a call that may wait for ever has its answer from the list that it has met.
-/
theorem Run.faithful_ends {client : Client σ α} {start w : World (Caller σ α) α}
    {history : List (Happening α)} (run : Run client.program start history w)
    : Faithful client start history w := by
  refine ⟨fun same => run.mirrored client.mirrors same, ?_⟩
  intro thread action after happening answer values made happens answered opens
  obtain ⟨next, rfl, caller, queue, acts⟩ := run.next made happens
  obtain ⟨wish, task, wants, comes, asks⟩ := Client.asks acts.asks
  have steady := run.steady_of_unlimited opens Client.request_unlimited
  refine ⟨caller, wish, task, acts.runs, wants, comes, asks, acts.program_resumes answered, ?_,
    ?_⟩
  · intro waits
    obtain ⟨first, met, later, found, settled, served⟩ :=
      run.answeredAt opens steady acts answered waits (Client.unlimited comes asks)
    exact ⟨first, met, found, settled, Client.tells comes asks served⟩
  · intro count seen drained
    have closed := by
      refine Client.closed_of_drained comes asks (fun pops => ?_) drained
      exact (run.waitPop_cases opens acts answered pops).imp_right fun ended =>
        ended.resolve_right fun lost => steady.never _ lost.2
    obtain ⟨_, _, _, _, _, last, created, here, inner⟩ := next.opened opens
    rw [closed] at answered
    exact ⟨last, here, inner.exhausted created (newest_mem_turnsAt history rfl) answered⟩

/-- A client that follows a script, one wish after the other, and keeps what it hears. -/
def scripted : Client (List (Wish Nat) × List (Heard Nat)) Nat :=
  { next? := fun state => state.1.head?
    hear := fun state heard => (state.1.tail, state.2 ++ [heard])
    failed := fun _ => 0 }

/-- A producer, and a consumer whose function offers each element to another queue, on the
given routes.
-/
def onRoutes (routes : Nat → Route)
    : World (Caller (List (Wish Nat) × List (Heard Nat)) Nat) Nat :=
  { queues :=
      [(Queue.ofRing (.ofCapacity 1) (Ring.empty 1)).withThreads .ofWords 2,
        (Queue.ofRing (.ofCapacity 1) (Ring.empty 1)).withThreads .ofWords 2]
    programs :=
      [{ client :=
            ([.call 0 (.push 5) false, .call 0 .close false, .call 0 (.push 6) false], [])
         routes },
        { client := ([.drain 0, .call 1 (.tryPush 50) false, .goOn], [])
          routes }] }

/-- Routes with wrappers in every other call. -/
def mixedRoutes (call : Nat) : Route :=
  if call % 2 = 0 then .minimal (.shared .endpoint) else .shared (.shared .own)

/-- The consumer gets the element before the end of the stream, the value of the last push
comes back, and without any wrappers all goes the same way.
-/
theorem faithful_ends_mixedRoutes
    : let played :=
        (onRoutes mixedRoutes).play scripted.program (calls [0, 1, 1, 0, 1, 0])
      played.2.programs.map (·.client.2)
        = [[.ended (.answered (.offered (.ok ()))), .ended (.answered .done),
            .ended (.answered (.offered (.error ⟨6⟩)))],
          [.handed 5, .ended (.answered (.push (.ok ()))), .ended (.drained 1 [5])]]
      ∧ Faithful scripted (onRoutes mixedRoutes) played.1 played.2
      ∧ ∃ w',
        Run scripted.program (onRoutes fun _ => .own) played.1 w'
        ∧ played.2.Mirrored (fun _ => Caller.Rerouted) w' := by
  have faithful :=
    Run.faithful_ends
      (.of_play scripted.program (onRoutes mixedRoutes) (calls [0, 1, 1, 0, 1, 0]))
  refine ⟨rfl, faithful, faithful.reroutes ⟨rfl, rfl, rfl, fun thread => ?_⟩⟩
  match thread with
  | 0 | 1 => exact .some rfl
  | _ + 2 => exact .none

end World

end Conduit
