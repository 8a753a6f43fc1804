/-!
How queue operations end. Being full, empty, closed, contended or too late is an ordinary
outcome: a value of one of these types, and a rejected push hands its value back.
-/

namespace Conduit

/-- The outcome of one operation on a queue. -/
inductive Status
  | success
  | empty
  | full
  | closed
  | busy
  | timedOut
  deriving DecidableEq, Repr

/-- The words for a status in messages. -/
def Status.text : Status → String
  | success => "success"
  | empty => "empty"
  | full => "full"
  | closed => "closed"
  | busy => "busy"
  | timedOut => "timed out"

/-- The identifier of a status in diagnostic output. -/
def Status.identifier : Status → String
  | success => "Success"
  | empty => "Empty"
  | full => "Full"
  | closed => "Closed"
  | busy => "Busy"
  | timedOut => "TimedOut"

/-- A push that did not happen, with the value that was refused. -/
inductive PushError (α : Type)
  | full (value : α)
  | closed (value : α)
  | busy (value : α)
  | timedOut (value : α)
  deriving DecidableEq, Repr

namespace PushError

variable {α : Type}

/-- The value that was not stored. -/
def value : PushError α → α
  | full v | closed v | busy v | timedOut v => v

def status : PushError α → Status
  | full _ => .full
  | closed _ => .closed
  | busy _ => .busy
  | timedOut _ => .timedOut

def isClosed : PushError α → Bool
  | closed _ => true
  | _ => false

def message (error : PushError α) : String := "push failed: queue " ++ error.status.text

end PushError

/-- A pop that produced no value. -/
inductive PopError
  | empty
  | closed
  | busy
  | timedOut
  deriving DecidableEq, Repr

namespace PopError

def status : PopError → Status
  | empty => .empty
  | closed => .closed
  | busy => .busy
  | timedOut => .timedOut

/-- An expired wait is not said to be a property of the queue. -/
def message : PopError → String
  | timedOut => "pop failed: timed out"
  | error => "pop failed: queue " ++ error.status.text

end PopError

/-- The queue is closed: the failure of the operations that report nothing else, with the
refused value where there is one.
-/
structure QueueClosed (α : Type) where
  value : α
  deriving DecidableEq, Repr, Inhabited

namespace QueueClosed

variable {α : Type}

def message (_ : QueueClosed α) : String := "queue is closed"

/-- The refused value is not shown. -/
def describe (_ : QueueClosed α) : String := "QueueClosed(..)"

end QueueClosed

/-- The status of a finished push. -/
def pushStatus {α : Type} : Except (PushError α) Unit → Status
  | .ok () => .success
  | .error e => e.status

/-- The status of a finished pop. -/
def popStatus {α : Type} : Except PopError α → Status
  | .ok _ => .success
  | .error e => e.status

end Conduit
