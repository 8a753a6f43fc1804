import Conduit.Endpoint
import Conduit.Queue.Attempt

/-! The operation table of a bounded queue, read on a plain list of elements.
Locks, slots and sleeping callers play no part here: an operation either has its answer at
once, or its caller has to wait for the other side. What an answer says about values is
defined beside it: which value was stored, which were handed out, which was handed back.
-/

namespace Conduit

variable {α : Type}

-----------------------------------------------------------------------------------------
-- The values that operations and answers carry
-----------------------------------------------------------------------------------------

/-- The value that an operation offers to the queue, if it is a push. -/
def Operation.offered? : Operation α → Option α
  | .waitPush value _ | .tryPush value | .nonblockingPush value => some value
  | _ => none

/-- The side on which an operation may have to wait. -/
def Operation.side? : Operation α → Option Side
  | .waitPush .. => some .producer
  | .waitPop _ => some .consumer
  | _ => none

def Operation.isClose : Operation α → Bool
  | .close => true
  | _ => false

/-- Whether an answer reports that the offered value was stored. -/
def Answer.isAccepted : Answer α → Bool
  | .push (.ok ()) | .offered (.ok ()) => true
  | _ => false

/-- The values that an answer hands out, oldest first. -/
def Answer.handedOut : Answer α → List α
  | .pop (.ok value) | .received (.ok value) => [value]
  | .drained values => values
  | _ => []

/-- The value that an answer hands back to its producer. -/
def Answer.handedBack? : Answer α → Option α
  | .push (.error error) => some error.value
  | .offered (.error closed) => some closed.value
  | _ => none

/-- Whether an answer is one that an event reports: an expired wait, or a close. -/
def Answer.isReported : Answer α → Bool
  | .push (.error (.timedOut _)) | .pop (.error .timedOut) | .done => true
  | _ => false

/-- The values that an operation has stored, given its answer. -/
def Answer.accepted (answer : Answer α) (operation : Operation α) : List α :=
  if answer.isAccepted then operation.offered?.toList else []

/-- The side whose callers make it possible for those of this side to go on. -/
def Side.other : Side → Side
  | .producer => .consumer
  | .consumer => .producer

/-- How many waiting callers of a side can go on because of an answer: producers for every
slot that became free, consumers for every element that came in.
-/
def Answer.admits (answer : Answer α) : Side → Nat
  | .producer => answer.handedOut.length
  | .consumer => if answer.isAccepted then 1 else 0

/-- What an event reports has moved no value. -/
theorem Answer.isReported_values {answer : Answer α} (reported : answer.isReported = true)
    : answer.isAccepted = false ∧ answer.handedOut = [] := by
  unfold isReported at reported
  split at reported
  · exact ⟨rfl, rfl⟩
  · exact ⟨rfl, rfl⟩
  · exact ⟨rfl, rfl⟩
  · cases reported

/-- Reporting a refused push as closure keeps what its answer says about values. -/
theorem Answer.asOffered_values (answer : Answer α)
    : answer.asOffered.isAccepted = answer.isAccepted
      ∧ answer.asOffered.handedOut = answer.handedOut
      ∧ answer.asOffered.handedBack? = answer.handedBack? := by
  cases answer with
  | push result => cases result <;> exact ⟨rfl, rfl, rfl⟩
  | _ => exact ⟨rfl, rfl, rfl⟩

theorem Answer.asReceived_values (answer : Answer α)
    : answer.asReceived.isAccepted = answer.isAccepted
      ∧ answer.asReceived.handedOut = answer.handedOut
      ∧ answer.asReceived.handedBack? = answer.handedBack? := by
  cases answer with
  | pop result => cases result <;> exact ⟨rfl, rfl, rfl⟩
  | _ => exact ⟨rfl, rfl, rfl⟩

-----------------------------------------------------------------------------------------
-- The table
-----------------------------------------------------------------------------------------

/-- A queue without its machinery: its settings, its elements, oldest first, and whether the
stream has ended.
-/
structure Fifo (α : Type) where
  config : Config
  elements : List α
  closed : Bool

namespace Fifo

/-- What the callers of a side find to do: slots to fill, or elements to take. -/
def available (f : Fifo α) : Side → Nat
  | .producer => f.config.capacity - f.elements.length
  | .consumer => f.elements.length

/-- What the table says about one operation. -/
inductive Response (α : Type)
  | answers (answer : Answer α) (after : Fifo α)
  | waits (side : Side)

/-- A closed queue refuses a push whether full or not; `otherwise` is for an open full one.
-/
def push (f : Fifo α) (value : α) (otherwise : Response α) : Response α :=
  if f.closed then .answers (.push (.error (.closed value))) f
  else if f.elements.length < f.config.capacity then
    .answers (.push (.ok ())) { f with elements := f.elements ++ [value] }
  else otherwise

/-- A pop takes the oldest element even from a closed queue; `otherwise` is for an open empty
one.
-/
def pop (f : Fifo α) (otherwise : Response α) : Response α :=
  match f.elements with
  | value :: rest => .answers (.pop (.ok value)) { f with elements := rest }
  | [] => if f.closed then .answers (.pop (.error .closed)) f else otherwise

/-- The operation table. An operation that may wait gives up if its time has expired. -/
def serve (f : Fifo α) (expired : Bool) : Operation α → Response α
  | .waitPush value _ =>
    f.push value <|
      if expired then .answers (.push (.error (.timedOut value))) f else .waits .producer
  | .tryPush value | .nonblockingPush value =>
    f.push value (.answers (.push (.error (.full value))) f)
  | .waitPop _ =>
    f.pop (if expired then .answers (.pop (.error .timedOut)) f else .waits .consumer)
  | .tryPop | .nonblockingPop => f.pop (.answers (.pop (.error .empty)) f)
  | .drain => .answers (.drained f.elements) { f with elements := [] }
  | .close => .answers .done { f with closed := true }
  | .isClosed => .answers (.flag f.closed) f
  | .isEmpty => .answers (.flag f.elements.isEmpty) f
  | .isFull => .answers (.flag (f.elements.length == f.config.capacity)) f
  | .length => .answers (.count f.elements.length) f
  | .inspect property => .answers (f.config.inspect property) f

-----------------------------------------------------------------------------------------
-- What every answer of the table keeps
-----------------------------------------------------------------------------------------

/-- The laws that each answered operation obeys: elements leave in the order in which they
came, a refused value goes back unchanged, only closing ends the stream, and at an open queue
an operation that may wait moves a value unless it finds nothing to do.
-/
structure Served (f : Fifo α) (operation : Operation α) (answer : Answer α) (after : Fifo α)
    : Prop where
  config : after.config = f.config
  closed : after.closed = (f.closed || operation.isClose)
  order : f.elements ++ answer.accepted operation = answer.handedOut ++ after.elements
  offered
    : ∀ value,
        operation.offered? = some value
        → answer = .push (.ok ())
          ∨ answer.isAccepted = false ∧ answer.handedBack? = some value
  unoffered : operation.offered? = none → answer.isAccepted = false
  moves
    : ∀ {side},
        operation.side? = some side
        → f.closed = false
        → answer.admits side.other = 1 ∨ f.available side = 0

/-- An answer of a push is a refusal, an appended value, or what an open full queue gives.
-/
theorem push_eq_answers {f after : Fifo α} {value : α} {otherwise : Response α}
    {answer : Answer α} (served : f.push value otherwise = .answers answer after)
    : (f.closed = true ∧ answer = .push (.error (.closed value)) ∧ after = f)
      ∨ (answer = .push (.ok ()) ∧ after = { f with elements := f.elements ++ [value] })
      ∨ (f.config.capacity ≤ f.elements.length ∧ otherwise = .answers answer after) := by
  unfold push at served
  split at served
  · rename_i closed
    obtain ⟨rfl, rfl⟩ := Response.answers.inj served
    exact Or.inl ⟨closed, rfl, rfl⟩
  · split at served
    · obtain ⟨rfl, rfl⟩ := Response.answers.inj served
      exact Or.inr (Or.inl ⟨rfl, rfl⟩)
    · exact Or.inr (Or.inr ⟨by omega, served⟩)

/-- An answer of a pop is the oldest element, the end of the stream, or what an open empty
queue gives.
-/
theorem pop_eq_answers {f after : Fifo α} {otherwise : Response α} {answer : Answer α}
    (served : f.pop otherwise = .answers answer after)
    : (∃ value rest,
        f.elements = value :: rest
        ∧ answer = .pop (.ok value)
        ∧ after = { f with elements := rest })
      ∨ (f.elements = [] ∧ answer = .pop (.error .closed) ∧ after = f)
      ∨ (f.elements = [] ∧ otherwise = .answers answer after) := by
  unfold pop at served
  split at served
  · rename_i value rest elements
    obtain ⟨rfl, rfl⟩ := Response.answers.inj served
    exact Or.inl ⟨value, rest, elements, rfl, rfl⟩
  · rename_i elements
    split at served
    · obtain ⟨rfl, rfl⟩ := Response.answers.inj served
      exact Or.inr (Or.inl ⟨elements, rfl, rfl⟩)
    · exact Or.inr (Or.inr ⟨elements, served⟩)

/-- A push obeys the laws if its answer for an open full queue hands the value back. -/
theorem served_of_push {f after : Fifo α} {operation : Operation α} {value : α}
    {otherwise : Response α} {answer : Answer α}
    (offers : operation.offered? = some value) (stays : operation.isClose = false)
    (produces : ∀ {side}, operation.side? = some side → side = .producer)
    (full
      : ∀ {given after},
          otherwise = .answers given after
          → ∃ error, given = .push (.error error) ∧ error.value = value ∧ after = f)
    (served : f.push value otherwise = .answers answer after)
    : Served f operation answer after := by
  rcases push_eq_answers served with ⟨closed, rfl, rfl⟩ | ⟨rfl, rfl⟩ | ⟨none, given⟩
  · constructor <;>
      simp_all [Answer.accepted, Answer.isAccepted, Answer.handedOut, Answer.handedBack?,
        PushError.value]
  · refine ⟨rfl, ?_, ?_, ?_, ?_, ?_⟩
    · simp [stays]
    · simp [Answer.accepted, Answer.isAccepted, Answer.handedOut, offers]
    · exact fun _ _ => Or.inl rfl
    · simp [offers]
    · intro side waits _
      obtain rfl := produces waits
      exact Or.inl rfl
  · obtain ⟨error, rfl, rfl, rfl⟩ := full given
    refine ⟨rfl, ?_, ?_, ?_, ?_, ?_⟩
    · simp [stays]
    · simp [Answer.accepted, Answer.isAccepted, Answer.handedOut]
    · simp_all [Answer.isAccepted, Answer.handedBack?]
    · exact fun _ => rfl
    · intro side waits _
      obtain rfl := produces waits
      exact Or.inr (Nat.sub_eq_zero_of_le none)

/-- A pop obeys the laws if its answer for an open empty queue hands out nothing. -/
theorem served_of_pop {f after : Fifo α} {operation : Operation α}
    {otherwise : Response α} {answer : Answer α}
    (offers : operation.offered? = none) (stays : operation.isClose = false)
    (consumes : ∀ {side}, operation.side? = some side → side = .consumer)
    (empty
      : ∀ {given after},
          otherwise = .answers given after
          → (∃ error, given = .pop (.error error)) ∧ after = f)
    (served : f.pop otherwise = .answers answer after)
    : Served f operation answer after := by
  rcases pop_eq_answers served with
    ⟨value, rest, elements, rfl, rfl⟩ | ⟨elements, rfl, rfl⟩ | ⟨elements, given⟩
  · refine ⟨rfl, ?_, ?_, ?_, ?_, ?_⟩
    · simp [stays]
    · simp [Answer.accepted, Answer.isAccepted, Answer.handedOut, elements]
    · simp [offers]
    · exact fun _ => rfl
    · intro side waits _
      obtain rfl := consumes waits
      exact Or.inl rfl
  · constructor <;> simp_all [Answer.accepted, Answer.isAccepted, Answer.handedOut]
    intro side waits _
    obtain rfl := consumes waits
    exact Or.inr (congrArg List.length elements)
  · obtain ⟨⟨error, rfl⟩, rfl⟩ := empty given
    constructor <;> simp_all [Answer.accepted, Answer.isAccepted, Answer.handedOut]
    intro side waits _
    obtain rfl := consumes waits
    exact Or.inr (congrArg List.length elements)

/-- Every answer of the table obeys the laws, by cases on the operation. -/
theorem served_of_serve {f after : Fifo α} {expired : Bool} {operation : Operation α}
    {answer : Answer α} (served : f.serve expired operation = .answers answer after)
    : Served f operation answer after := by
  cases operation with
  | waitPush value timeout =>
    refine served_of_push rfl rfl (fun waits => (Option.some.inj waits).symm) ?_ served
    intro given after full
    cases expired <;> cases full
    exact ⟨.timedOut value, rfl, rfl, rfl⟩
  | tryPush value | nonblockingPush value =>
    refine served_of_push rfl rfl (fun waits => by cases waits) ?_ served
    intro given after full
    cases full
    exact ⟨.full value, rfl, rfl, rfl⟩
  | waitPop timeout =>
    refine served_of_pop rfl rfl (fun waits => (Option.some.inj waits).symm) ?_ served
    intro given after empty
    cases expired <;> cases empty
    exact ⟨⟨.timedOut, rfl⟩, rfl⟩
  | tryPop | nonblockingPop =>
    refine served_of_pop rfl rfl (fun waits => by cases waits) ?_ served
    intro given after empty
    cases empty
    exact ⟨⟨.empty, rfl⟩, rfl⟩
  | drain | close | isClosed | isEmpty | isFull | length =>
    cases served
    constructor <;>
      simp [Answer.accepted, Answer.isAccepted, Answer.handedOut, Operation.offered?,
        Operation.side?, Operation.isClose]
  | inspect property =>
    cases served
    cases property <;> constructor <;>
      simp [Answer.accepted, Answer.isAccepted, Answer.handedOut, Operation.offered?,
        Operation.side?, Operation.isClose, Config.inspect]

/-- Only an operation that may wait has to, at an open queue, on its own side, when its time
has not expired and there is nothing for it to do.
-/
theorem serve_eq_waits {f : Fifo α} {expired : Bool} {operation : Operation α} {side : Side}
    (waits : f.serve expired operation = .waits side)
    : operation.side? = some side
      ∧ f.closed = false
      ∧ expired = false
      ∧ f.available side = 0 := by
  cases operation with
  | waitPush value timeout =>
    simp only [serve, push] at waits
    repeat' split at waits
    all_goals cases waits
    simp_all [Operation.side?, available]
  | tryPush value | nonblockingPush value =>
    simp only [serve, push] at waits
    repeat' split at waits
    all_goals cases waits
  | waitPop timeout =>
    simp only [serve, pop] at waits
    repeat' split at waits
    all_goals cases waits
    simp_all [Operation.side?, available]
  | tryPop | nonblockingPop =>
    simp only [serve, pop] at waits
    repeat' split at waits
    all_goals cases waits
  | drain | close | isClosed | isEmpty | isFull | length | inspect property => cases waits

theorem Served.lengths {f after : Fifo α} {operation : Operation α} {answer : Answer α}
    (served : Served f operation answer after)
    : after.elements.length + answer.admits .producer
      = f.elements.length + answer.admits .consumer := by
  have order := congrArg List.length served.order
  have accepted : (answer.accepted operation).length = answer.admits .consumer := by
    unfold Answer.accepted Answer.admits
    cases stored : answer.isAccepted with
    | false => rfl
    | true =>
      cases offers : operation.offered? with
      | none => cases stored.symm.trans (served.unoffered offers)
      | some value => rfl
  rw [List.length_append, List.length_append, accepted] at order
  change _ = answer.admits .producer + _ at order
  omega

/-- What a side finds to do grows by what its own callers are admitted to, and shrinks by what
the answer lets the other side do.
-/
theorem Served.available {f after : Fifo α} {operation : Operation α} {answer : Answer α}
    (served : Served f operation answer after)
    (before : f.elements.length ≤ f.config.capacity)
    (fits : after.elements.length ≤ f.config.capacity) (side : Side)
    : after.available side + answer.admits side.other
      = f.available side + answer.admits side := by
  have lengths := served.lengths
  have config := served.config
  cases side with
  | producer =>
    simp only [Fifo.available, Side.other, config]
    omega
  | consumer =>
    simp only [Fifo.available, Side.other]
    omega

/-- Of the operations that may fail without the queue being closed for it, only the close
itself has an answer that an event reports.
-/
theorem closed_of_isReported {f after : Fifo α} {expired : Bool} {operation : Operation α}
    {answer : Answer α} (served : f.serve expired operation = .answers answer after)
    (careless : operation.closesOnFailure = false) (reported : answer.isReported = true)
    : after.closed = true := by
  cases operation with
  | close =>
    cases served
    rfl
  | isClosed | isEmpty | isFull | length =>
    cases served
    cases reported
  | inspect property =>
    cases served
    cases property <;> cases reported
  | _ => cases careless

end Fifo

end Conduit
