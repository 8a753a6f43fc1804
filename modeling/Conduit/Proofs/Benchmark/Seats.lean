import Conduit.Benchmark
import Conduit.Proofs.World.Blocked

/-! The two seats of a benchmark.
Whichever benchmark it is, each thread offers values at the queue of its own number and
closes no other one, it takes values at the other queue, and it waits without end.
-/

namespace Conduit.Benchmark

open World

-----------------------------------------------------------------------------------------
-- Where a benchmark begins
-----------------------------------------------------------------------------------------

/-- An empty queue for every label, each with a place for every thread, and a thread for every
role.
-/
def opening (capacity : Nat) (labels : List String) (roles : List Role) : World Role Nat :=
  { queues :=
      labels.map fun label =>
        (Queue.ofRing ((Config.ofCapacity capacity).withLabel label)
          (Ring.empty capacity)).withThreads .ofWords roles.length
    programs := roles }

section
variable {capacity : Nat} {labels : List String} {roles : List Role}

theorem addQueue_opening (label : String)
    : ((opening capacity labels roles).addQueue
          (.ofRing ((Config.ofCapacity capacity).withLabel label) (.empty capacity))).1
      = opening capacity (labels ++ [label]) roles := by
  simp [opening, addQueue, Queue.withThreads, Queue.ofRing]

/-- A benchmark begins there if its queues fit into memory, by induction on the labels of the
queues that have yet to be built.
-/
theorem start_eq {settings : Settings} (positive : 0 < settings.capacity)
    (fits : (settings.capacity + 1) * slotBytes ≤ Ring.largestBlock)
    : start settings labels roles = .ok (opening settings.capacity labels roles) := by
  suffices
      ∀ built : List String,
        labels.foldlM
            (fun (w : World Role Nat) label => do
              let queue ← (Queue.labelled slotBytes settings.capacity label).result
              return (w.addQueue queue).1)
            (opening settings.capacity built roles)
          = .ok (opening settings.capacity (built ++ labels) roles) from this []
  induction labels with
  | nil =>
    intro built
    rw [List.append_nil]
    rfl
  | cons label rest ih =>
    intro built
    have created
        : (Queue.labelled slotBytes settings.capacity label : Creation Nat).result
          = .ok (.ofRing ((Config.ofCapacity settings.capacity).withLabel label)
              (.empty settings.capacity)) :=
      Queue.created_empty positive fits
    have next := ih (built ++ [label])
    rw [← addQueue_opening, List.append_assoc] at next
    rw [List.foldlM_cons, created]
    exact next

/-- Whatever its capacity, every queue of a benchmark has been opened without elements. -/
theorem opens_opening (positive : 0 < capacity) {k : Nat} (within : k < labels.length)
    : (opening capacity labels roles).Opens k [] := by
  have created
      : (Queue.ofConfig 0 ((Config.ofCapacity capacity).withLabel labels[k]) : Creation Nat).result
        = .ok (.ofRing ((Config.ofCapacity capacity).withLabel labels[k]) (.empty capacity)) :=
    Queue.created_empty positive (Nat.zero_le _)
  have nothing : Items.ofList ([] : List Nat) = .empty := by
    funext index
    simp [Items.ofList, Items.empty]
  rw [Queue.ofConfig, ← nothing] at created
  refine ⟨0, _, _, .ofWords, created, ?_⟩
  simp [opening, within]

end

-----------------------------------------------------------------------------------------
-- Seats
-----------------------------------------------------------------------------------------

/-- The calls that fit the seat with the given number. -/
structure Fits (seat : Nat) (request : Request Nat) : Prop where
  offers : request.operation.offered? ≠ none → seat = request.queue
  takes : request.operation.pops = true → seat + request.queue = 1
  closes : request.operation.isClose = true → seat = request.queue
  unlimited : request.operation.timeout = .infinite

/-- The seat of the thread that plays a role. Having finished or failed goes with both. -/
def Role.seat? : Role → Option Nat
  | .sender .. | .requester .. | .awaiting .. => some 0
  | .receiver _ | .echo | .replying _ | .closingReplies => some 1
  | .finished _ | .failed _ => none

/-- Whether a thread has nothing more to send: it closes its queue next, or has done so. -/
def Role.isClosing : Role → Bool
  | .sender next stop | .requester next stop => stop ≤ next
  | .closingReplies | .finished _ => true
  | _ => false

def Role.isFinished : Role → Bool
  | .finished _ => true
  | _ => false

namespace Role

theorem offered?_sending (number stop : Nat)
    : (sending number stop).operation.offered? = if number < stop then some number else none := by
  unfold sending
  split <;> rfl

theorem side?_sending (number stop : Nat)
    : (sending number stop).operation.side? ≠ some .consumer := by
  unfold sending
  split <;> nofun

theorem fits_of_request {role : Role} {request : Request Nat}
    (asks : role.request? = some request)
    : ∃ seat, role.seat? = some seat ∧ Fits seat request := by
  cases role with
  | sender next stop | requester next stop =>
    obtain rfl := Option.some.inj asks
    refine ⟨0, rfl, ?_⟩
    unfold sending
    split <;> exact ⟨fun _ => rfl, nofun, fun _ => rfl, rfl⟩
  | receiver | echo | awaiting | replying | closingReplies =>
    obtain rfl := Option.some.inj asks
    refine ⟨_, rfl, ?_⟩
    constructor <;> simp [calling, Front.queue, Back.queue, Operation.offered?, Operation.pops,
      Operation.isClose, Operation.timeout]
  | finished | failed => cases asks

/-- A thread keeps its seat. -/
theorem seat?_resume {role : Role} {answer : Answer Nat} {seat : Nat}
    (sits : (role.resume answer).seat? = some seat)
    : role.seat? = some seat := by
  cases role with
  | sender | requester =>
    simp only [resume, afterPush] at sits
    repeat' split at sits
    all_goals first | exact sits | cases sits
  | receiver | echo | awaiting | replying | closingReplies =>
    simp only [resume, receive, answerBack, compare, afterPush] at sits
    repeat' split at sits
    all_goals first | exact sits | cases sits
  | finished | failed => cases sits

theorem isClosing_resume {role : Role} (closing : role.isClosing = true) (answer : Answer Nat)
    : (role.resume answer).isClosing = true := by
  cases role with
  | sender next stop | requester next stop =>
    have past : ¬ next < stop := by simpa [isClosing] using closing
    simp [resume, past, isClosing]
  | closingReplies | finished => rfl
  | _ => cases closing

/-- Who calls to close a queue has nothing more to send. -/
theorem isClosing_of_request {role : Role} {request : Request Nat}
    (asks : role.request? = some request) (closes : request.operation.isClose = true)
    : role.isClosing = true := by
  cases role with
  | sender next stop | requester next stop =>
    obtain rfl := Option.some.inj asks
    by_cases more : next < stop
    · simp [sending, more, calling, Back.queue, Operation.isClose] at closes
    · simpa [isClosing] using more
  | closingReplies => rfl
  | receiver | echo | awaiting | replying =>
    obtain rfl := Option.some.inj asks
    cases closes
  | finished | failed => cases asks

/-- A thread cannot survive being refused a push. -/
theorem resume_refused {role : Role} {request : Request Nat}
    (asks : role.request? = some request) {value : Nat}
    (pushes : request.operation = .waitPush value .infinite)
    : role.resume (.push (.error (.closed value))) = .failed .refused := by
  cases role with
  | sender next stop | requester next stop =>
    obtain rfl := Option.some.inj asks
    by_cases more : next < stop
    · simp [resume, more, afterPush, Back.queue, Answer.asOffered]
    · simp [sending, more, calling, Back.queue] at pushes
  | replying => rfl
  | receiver | echo | awaiting | closingReplies =>
    obtain rfl := Option.some.inj asks
    cases pushes
  | finished | failed => cases asks

end Role

-----------------------------------------------------------------------------------------
-- Runs
-----------------------------------------------------------------------------------------

/-- A world in which a benchmark can begin: every thread has the seat of its own number, and
all queues have been opened without elements.
-/
structure Prepared (start : World Role Nat) : Prop where
  seated
    : ∀ {thread seat : Nat} {role : Role},
        start.programs[thread]? = some role → role.seat? = some seat → seat = thread
  opens : ∀ {k}, k < start.queues.length → start.Opens k []

variable {start w after : World Role Nat} {history : List (Happening Nat)}

/-- In a benchmark of two threads there are never any others. -/
theorem programs_pair (run : Run Role.program start history w) (two : start.programs.length = 2)
    {first second : Role} (here : w.programs[0]? = some first)
    (there : w.programs[1]? = some second)
    : w.programs = [first, second] := by
  have length := run.lengths.2.trans two
  match same : w.programs, length with
  | [_, _], _ => simp_all

/-- Nobody learns anything at a queue in a step at another one. -/
theorem learns_elsewhere (history : List (Happening Nat)) {role : Role} {queue : Queue Nat}
    {happening : Happening Nat}
    (acts : w.Acts Role.program role queue happening after) {request : Request Nat}
    (asks : role.request? = some request) {k : Nat} (elsewhere : request.queue ≠ k)
    (thread : Nat)
    : handed (history ++ [happening]) k thread = handed history k thread
      ∧ confirmed (history ++ [happening]) k thread = confirmed history k thread := by
  obtain rfl := Option.some.inj (acts.asks.symm.trans asks)
  obtain ⟨hands, confirms, _⟩ :=
    learns_nothing history happening k thread fun there => absurd there elsewhere
  exact ⟨hands, confirms⟩

/-- Who has nothing more to send has nothing more to send after a step of anybody. -/
theorem closing_of_acts {role : Role} {queue : Queue Nat}
    {happening : Happening Nat} (acts : w.Acts Role.program role queue happening after) {k : Nat}
    (closing : ∃ mine, w.programs[k]? = some mine ∧ mine.isClosing = true)
    : ∃ mine, after.programs[k]? = some mine ∧ mine.isClosing = true := by
  obtain ⟨mine, runs, closing⟩ := closing
  by_cases own : k = happening.turn.thread
  · subst own
    obtain rfl := Option.some.inj (acts.runs.symm.trans runs)
    cases answered : happening.turn.progress.answer with
    | none => exact ⟨role, acts.program_waits answered ▸ runs, closing⟩
    | some answer =>
      exact ⟨_, acts.program_resumes answered, Role.isClosing_resume closing answer⟩
  · exact ⟨mine, (acts.program_other own).trans runs, closing⟩

theorem prepared_opening {capacity : Nat} (positive : 0 < capacity) (labels : List String)
    {roles : List Role}
    (seated
      : ∀ {thread seat : Nat} {role : Role},
          roles[thread]? = some role → role.seat? = some seat → seat = thread)
    : Prepared (opening capacity labels roles) where
  seated := seated
  opens within := opens_opening positive (by simpa [opening] using within)

namespace Prepared

theorem opensAt (prepared : Prepared start) (run : Run Role.program start history w) {k : Nat}
    {q : Queue Nat} (here : w.queues[k]? = some q)
    : start.Opens k [] := by
  refine prepared.opens ?_
  rw [← run.lengths.1]
  exact (List.getElem?_eq_some_iff.mp here).1

theorem sits (prepared : Prepared start) (run : Run Role.program start history w) {thread : Nat}
    {role : Role} (runs : w.programs[thread]? = some role) {seat : Nat}
    (sits : role.seat? = some seat)
    : seat = thread := by
  have within : thread < start.programs.length := by
    rw [← run.lengths.2]
    exact (List.getElem?_eq_some_iff.mp runs).1
  have starts := List.getElem?_eq_getElem within
  obtain ⟨mine, same, stays⟩ := run.thread starts
    (P := fun _ _ role => ∀ seat, role.seat? = some seat → seat = thread)
    (fun _ sits => prepared.seated starts sits) (fun _ stays _ _ => stays)
    (fun _ stays _ _ _ _ seat sits => stays seat (Role.seat?_resume sits)) fun _ => id
  obtain rfl := Option.some.inj (same.symm.trans runs)
  exact stays seat sits

/-- Every call fits the seat of its thread. -/
theorem fits (prepared : Prepared start) (run : Run Role.program start history w)
    {role : Role} {queue : Queue Nat} {happening : Happening Nat}
    (acts : w.Acts Role.program role queue happening after)
    : Fits happening.turn.thread happening.request := by
  obtain ⟨seat, sits, fits⟩ := Role.fits_of_request acts.asks
  rw [← prepared.sits run acts.runs sits]
  exact fits

/-- Nobody stumbles over a poisoned lock. -/
theorem steady (run : Run Role.program start history w) {k : Nat} (opens : start.Opens k [])
    : Steady (turnsAt history k) := by
  refine run.steady_of_unlimited opens fun asks => ?_
  obtain ⟨_, _, fits⟩ := Role.fits_of_request asks
  exact fits.unlimited

theorem upright (prepared : Prepared start) (run : Run Role.program start history w) {k : Nat}
    {q : Queue Nat} (here : w.queues[k]? = some q)
    : q.Upright := by
  have opens := prepared.opensAt run here
  obtain ⟨_, _, _, _, _, queue, _, there, inner⟩ := run.opened opens
  obtain rfl := Option.some.inj (here.symm.trans there)
  exact inner.upright (steady run opens) Queue.upright_withThreads

/-- Queue `k` leads from thread `k` to the other one, by induction on the run. -/
theorem channel (prepared : Prepared start) (run : Run Role.program start history w) (k : Nat)
    : Channel history k k (1 - k) := by
  refine run.induct (P := fun history _ => Channel history k k (1 - k)) ?_ ?_ fun _ => id
  · constructor <;> intro happening member <;> cases member
  · intro history w role queue newest after before channel acts
    have fits := prepared.fits before acts
    constructor
    · intro happening member here offers
      rcases List.mem_append.mp member with earlier | same
      · exact channel.offers happening earlier here offers
      · obtain rfl := List.mem_singleton.mp same
        exact (fits.offers offers).trans here
    · intro happening member here pops
      rcases List.mem_append.mp member with earlier | same
      · exact channel.takes happening earlier here pops
      · obtain rfl := List.mem_singleton.mp same
        have other := fits.takes pops
        omega

/-- If queue `k` is closed then thread `k` has nothing more to send, by induction on the
run.
-/
theorem closing (prepared : Prepared start) (run : Run Role.program start history w) {k : Nat}
    (closed : w.ClosedAt k)
    : ∃ role, w.programs[k]? = some role ∧ role.isClosing = true := by
  refine run.grow (P := fun _ w =>
    w.ClosedAt k → ∃ role, w.programs[k]? = some role ∧ role.isClosing = true) ?_ ?_
    (fun _ => id) closed
  · rintro ⟨q, here, closed⟩
    have opens := prepared.opens (List.getElem?_eq_some_iff.mp here).1
    cases (opens.isOpen here).symm.trans closed
  · intro history w role queue happening after before known acts next closed
    refine closing_of_acts acts ?_
    by_cases already : w.ClosedAt k
    · exact known already
    · -- The step has closed the queue, which only a call to close it can do.
      obtain ⟨q, here, closed⟩ := closed
      have isOpen : ∀ {q}, w.queues[k]? = some q → q.fifo.closed = false :=
        fun here => Bool.eq_false_iff.mpr fun closed => already ⟨_, here, closed⟩
      have fits := prepared.fits before acts
      have opens := prepared.opensAt next here
      have closes
          : happening.request.queue = k ∧ happening.request.operation.isClose = true := by
        by_contra never
        have still := before.stays_open opens acts isOpen (fun there =>
          ⟨Bool.eq_false_iff.mpr fun closes => never ⟨there, closes⟩, Or.inr fits.unlimited⟩) here
        cases still.symm.trans closed
      have own : happening.turn.thread = k := (fits.closes closes.2).trans closes.1
      exact ⟨role, own ▸ acts.runs, Role.isClosing_of_request acts.asks closes.2⟩

/-- A thread that pushes is not refused, since nobody else closes its queue. -/
theorem pushes (prepared : Prepared start) (run : Run Role.program start history w)
    {role : Role} {queue : Queue Nat} {happening : Happening Nat}
    (acts : w.Acts Role.program role queue happening after)
    (next : Run Role.program start (history ++ [happening]) after) {answer : Answer Nat}
    {thread : Nat} (own : happening.turn.thread = thread)
    (answered : happening.turn.progress.answer = some answer) {k value : Nat}
    (asks : role.request? = some { queue := k, operation := .waitPush value .infinite })
    : answer = .push (.ok ())
      ∧ confirmed (history ++ [happening]) k thread = confirmed history k thread ++ [value] := by
  have request := Option.some.inj (acts.asks.symm.trans asks)
  have here : happening.request.queue = k := by rw [request]
  have offers : happening.request.operation = .waitPush value .infinite := by rw [request]
  have opens := prepared.opensAt run acts.found
  have learnt := (learns history here own answered).2.1
  rw [offers] at learnt
  rcases run.waitPush_cases opens acts answered offers with rfl | rfl | ⟨_, stumbled⟩
  · exact ⟨rfl, learnt⟩
  · have closed := run.closedAt_of_told opens acts answered rfl
    have mine : happening.turn.thread = happening.request.queue :=
      (prepared.fits run acts).offers (by rw [offers]; exact nofun)
    obtain ⟨_, runs, closing⟩ := prepared.closing next closed
    rw [← mine, acts.program_resumes answered] at runs
    obtain rfl := Option.some.inj runs
    have failed : Role.program.resume role _ = .failed .refused :=
      Role.resume_refused acts.asks offers
    rw [failed] at closing
    cases closing
  · exact absurd stumbled ((steady run opens).never _)

/-- A thread that closes its queue leaves it closed. -/
theorem closes (prepared : Prepared start) (run : Run Role.program start history w)
    {role : Role} {queue : Queue Nat} {happening : Happening Nat}
    (acts : w.Acts Role.program role queue happening after) {answer : Answer Nat}
    {thread : Nat} (own : happening.turn.thread = thread)
    (answered : happening.turn.progress.answer = some answer) {k : Nat}
    (asks : role.request? = some { queue := k, operation := .close })
    : confirmed (history ++ [happening]) k thread = confirmed history k thread
      ∧ after.ClosedAt k := by
  have request := Option.some.inj (acts.asks.symm.trans asks)
  have here : happening.request.queue = k := by rw [request]
  have closes : happening.request.operation = .close := by rw [request]
  have learnt := (learns history here own answered).2.1
  have closed := run.closedAt_of_close (prepared.opensAt run acts.found) acts answered closes
  rw [closes] at learnt
  rw [here] at closed
  refine ⟨learnt.trans ?_, closed⟩
  simp [Answer.accepted, Operation.offered?]

/-- The first thread stores the next number, or it closes its queue after the last one. -/
theorem sending_cases (prepared : Prepared start) (run : Run Role.program start history w)
    {role : Role} {queue : Queue Nat} {happening : Happening Nat}
    (acts : w.Acts Role.program role queue happening after)
    (next : Run Role.program start (history ++ [happening]) after) {answer : Answer Nat}
    (own : happening.turn.thread = 0)
    (answered : happening.turn.progress.answer = some answer) {number stop : Nat}
    (asks : role.request? = some (Role.sending number stop))
    : (number < stop
        ∧ answer = .push (.ok ())
        ∧ confirmed (history ++ [happening]) 0 0 = confirmed history 0 0 ++ [number])
      ∨ (stop ≤ number
        ∧ confirmed (history ++ [happening]) 0 0 = confirmed history 0 0
        ∧ after.ClosedAt 0) := by
  by_cases more : number < stop
  · rw [Role.sending, if_pos more] at asks
    exact Or.inl ⟨more, prepared.pushes run acts next own answered asks⟩
  · rw [Role.sending, if_neg more] at asks
    exact Or.inr ⟨Nat.not_lt.mp more, prepared.closes run acts own answered asks⟩

/-- A thread that pops is handed a number, or it is told of the end of a closed queue. -/
theorem popping_cases (prepared : Prepared start) (run : Run Role.program start history w)
    {role : Role} {queue : Queue Nat} {happening : Happening Nat}
    (acts : w.Acts Role.program role queue happening after) {answer : Answer Nat} {thread : Nat}
    (own : happening.turn.thread = thread)
    (answered : happening.turn.progress.answer = some answer) {k : Nat}
    (asks : role.request? = some { queue := k, operation := .waitPop .infinite })
    : (∃ value,
        answer = .pop (.ok value)
        ∧ handed (history ++ [happening]) k thread = handed history k thread ++ [value])
      ∨ (answer = .pop (.error .closed)
        ∧ handed (history ++ [happening]) k thread = handed history k thread
        ∧ after.ClosedAt k
        ∧ Ended (history ++ [happening]) k) := by
  have asks := Option.some.inj (acts.asks.symm.trans asks)
  have here : happening.request.queue = k := by rw [asks]
  have pops : happening.request.operation = .waitPop .infinite := by rw [asks]
  have opens := prepared.opensAt run acts.found
  have learnt := (learns history here own answered).1
  rcases run.waitPop_cases opens acts answered pops with
    ⟨value, rfl⟩ | rfl | ⟨_, stumbled⟩
  · exact Or.inl ⟨value, rfl, learnt⟩
  · have closed := run.closedAt_of_told opens acts answered rfl
    rw [here] at closed
    exact Or.inr ⟨rfl, learnt.trans (List.append_nil _), closed, _,
      newest_mem_turnsAt history here, answered⟩
  · exact absurd stumbled ((steady run opens).never _)

/-- In a blocked world a thread that has a call to make starves in it. -/
theorem starved (prepared : Prepared start) (run : Run Role.program start history w)
    (blocked : w.Blocked Role.program) {thread : Nat} {role : Role} {request : Request Nat}
    (runs : w.programs[thread]? = some role) (asks : role.request? = some request)
    (within : request.queue < start.queues.length)
    : w.Starved history thread request := by
  have starts : thread < start.programs.length := by
    rw [← run.lengths.2]
    exact (List.getElem?_eq_some_iff.mp runs).1
  exact run.starved blocked (prepared.opens within) (List.getElem?_eq_getElem starts) runs asks

end Prepared

end Conduit.Benchmark
