import Conduit.Queue.Operation

/-!
The two ends of a queue as pipeline stages see them, whatever the way in which they hold the
queue. An end is a table of methods, and each method is one operation together with a reading
of its answer.
-/

namespace Conduit

/-- An operation and how its answer is read. -/
structure Method (α : Type) where
  operation : Operation α
  read : Answer α → Answer α := id

namespace Answer

variable {α : Type}

/-- Reports a refused push as closure, whatever the reason. -/
def asOffered : Answer α → Answer α
  | push (.ok ()) => offered (.ok ())
  | push (.error e) => offered (.error ⟨e.value⟩)
  | answer => answer

/-- Reports a pop without a value as the end of the stream, whatever the reason. -/
def asReceived : Answer α → Answer α
  | pop (.ok value) => received (.ok value)
  | pop (.error _) => received (.error ⟨()⟩)
  | answer => answer

end Answer

namespace Method

variable {α : Type}

/-- Reads the answer further. -/
def map (m : Method α) (f : Answer α → Answer α) : Method α :=
  { operation := m.operation, read := fun answer => f (m.read answer) }

end Method

/-- The end at which values enter. -/
structure Back (α : Type) where
  waitPush : α → Method α
  tryPush : α → Method α
  /-- Waits for space and reports nothing but closure. -/
  push : α → Method α
  close : Method α
  isClosed : Method α

/-- The end at which values leave. -/
structure Front (α : Type) where
  waitPop : Method α
  tryPop : Method α
  /-- Waits for data and reports nothing but the end of the stream. -/
  valuePop : Method α
  isClosed : Method α
  isEmpty : Method α

namespace Back

variable {α : Type}

/-- The queue's own methods. -/
def queue : Back α :=
  { waitPush := fun value => ⟨.waitPush value .infinite, id⟩
    tryPush := fun value => ⟨.tryPush value, id⟩
    push := fun value => ⟨.waitPush value .infinite, Answer.asOffered⟩
    close := ⟨.close, id⟩
    isClosed := ⟨.isClosed, id⟩ }

/-- An end that hands every call on. -/
def forward (inner : Back α) : Back α :=
  { waitPush := fun value => inner.waitPush value
    tryPush := fun value => inner.tryPush value
    push := fun value => inner.push value
    close := inner.close
    isClosed := inner.isClosed }

/-- An end that hands on the calls it has to and makes the others from them. -/
def minimal (inner : Back α) : Back α :=
  { waitPush := fun value => inner.waitPush value
    tryPush := fun value => inner.tryPush value
    push := fun value => (inner.waitPush value).map Answer.asOffered
    close := inner.close
    isClosed := inner.isClosed }

end Back

namespace Front

variable {α : Type}

/-- The queue's own methods. -/
def queue : Front α :=
  { waitPop := ⟨.waitPop .infinite, id⟩
    tryPop := ⟨.tryPop, id⟩
    valuePop := ⟨.waitPop .infinite, Answer.asReceived⟩
    isClosed := ⟨.isClosed, id⟩
    isEmpty := ⟨.isEmpty, id⟩ }

/-- An end that hands every call on. -/
def forward (inner : Front α) : Front α :=
  { waitPop := inner.waitPop
    tryPop := inner.tryPop
    valuePop := inner.valuePop
    isClosed := inner.isClosed
    isEmpty := inner.isEmpty }

/-- An end that hands on the calls it has to and makes the others from them. -/
def minimal (inner : Front α) : Front α :=
  { waitPop := inner.waitPop
    tryPop := inner.tryPop
    valuePop := inner.waitPop.map Answer.asReceived
    isClosed := inner.isClosed
    isEmpty := inner.isEmpty }

end Front

/-- How a stage holds a queue. -/
inductive Route
  /-- It calls the queue's own methods. -/
  | own
  /-- It knows the queue only as an end. -/
  | endpoint
  /-- It shares another holder. -/
  | shared (inner : Route)
  /-- It wraps another holder and offers only the methods that an end must have. -/
  | minimal (inner : Route)
  deriving DecidableEq, Repr

namespace Route

variable {α : Type}

def back : Route → Back α
  | own => .queue
  | endpoint => .forward .queue
  | shared inner => .forward inner.back
  | minimal inner => .minimal inner.back

def front : Route → Front α
  | own => .queue
  | endpoint => .forward .queue
  | shared inner => .forward inner.front
  | minimal inner => .minimal inner.front

end Route

end Conduit
