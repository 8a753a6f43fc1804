import Conduit.Endpoint
import Conduit.World

/-!
What callers do with queues: single calls, consumers that take everything up to the end of
the stream, and pipeline stages that hand on what they take. Each is a program of a thread.
-/

namespace Conduit

/-- What a finished task has to tell. -/
inductive Report (α : Type)
  | answered (answer : Answer α)
  /-- The stream has ended after these elements. -/
  | drained (count : Nat) (seen : List α)
  /-- The consumer's function failed on the last of these elements. -/
  | consumerFailed (seen : List α)
  /-- The stream has ended after so many elements, and so many of them were refused by the
  output. -/
  | staged (count dropped : Nat)

/-- What a stage is about to do. -/
inductive StageStep (α : Type)
  | take
  | give (value : α)
  | close

/-- A stage of a pipeline: its input and output, the methods it uses on them, and what it
makes of an element.
-/
structure Stage (α : Type) where
  input : Nat
  output : Nat
  take : Method α
  give : α → Method α
  close : Method α
  transform : α → α

/-- The state of a task. -/
inductive Task (α : Type)
  | call (queue : Nat) (method : Method α) (alreadyFailing : Bool)
  /-- Takes elements up to the end of the stream; the function they are given to may be going
  to fail on one of them. -/
  | drain (queue : Nat) (take : Method α) (failAt : Option Nat) (count : Nat) (seen : List α)
  | stage (stage : Stage α) (count dropped : Nat) (step : StageStep α)
  | finished (report : Report α)

namespace Task

variable {α : Type}

def report? : Task α → Option (Report α)
  | finished report => some report
  | _ => none

/-- A stage before its first element. -/
def ofStage (s : Stage α) : Task α := .stage s 0 0 .take

/-- The next call of a task. -/
def request? : Task α → Option (Request α)
  | call queue method alreadyFailing =>
    some { queue, operation := method.operation, alreadyFailing }
  | drain queue take .. => some { queue, operation := take.operation }
  | stage s _ _ .take => some { queue := s.input, operation := s.take.operation }
  | stage s _ _ (.give value) =>
    some { queue := s.output, operation := (s.give value).operation }
  | stage s _ _ .close => some { queue := s.output, operation := s.close.operation }
  | finished _ => none

/-- What a consumer does with the answer to a pop: any refusal ends the stream for it, and a
failure of the log sink ends the consumer.
-/
def resumeDrain (queue : Nat) (take : Method α) (failAt : Option Nat) (count : Nat)
    (seen : List α) : Answer α → Task α
  | .pop (.ok value) =>
    if failAt = some (count + 1) then .finished (.consumerFailed (seen ++ [value]))
    else .drain queue take failAt (count + 1) (seen ++ [value])
  | .sinkFailed => .finished (.answered .sinkFailed)
  | _ => .finished (.drained count seen)

/-- What a stage does with an answer. A refused element is only counted; the end of the
input closes the output. A failure of the log sink ends the stage.
-/
def resumeStage (s : Stage α) (count dropped : Nat) : StageStep α → Answer α → Task α
  | _, .sinkFailed => .finished (.answered .sinkFailed)
  | .take, .pop (.ok value) => .stage s count dropped (.give (s.transform value))
  | .take, _ => .stage s count dropped .close
  | .give _, .offered (.ok ()) => .stage s (count + 1) dropped .take
  | .give _, _ => .stage s (count + 1) (dropped + 1) .take
  | .close, _ => .finished (.staged count dropped)

/-- How a task goes on after an answer. -/
def resume : Task α → Answer α → Task α
  | call _ method _, answer => .finished (.answered (method.read answer))
  | drain queue take failAt count seen, answer =>
    resumeDrain queue take failAt count seen (take.read answer)
  | stage s count dropped .take, answer =>
    resumeStage s count dropped .take (s.take.read answer)
  | stage s count dropped (.give value), answer =>
    resumeStage s count dropped (.give value) ((s.give value).read answer)
  | stage s count dropped .close, answer =>
    resumeStage s count dropped .close (s.close.read answer)
  | finished report, _ => .finished report

/-- Tasks as programs. -/
def program : Program (Task α) α := { request?, resume }

end Task

end Conduit
