import Conduit.Queue.Create
import Conduit.Endpoint
import Conduit.Schedule

/-!
Many producers and consumers on one queue. Each producer pushes its own run of numbers, the
queue is closed when all producers are done, and each consumer takes what it gets until the
end of the stream.
-/

namespace Conduit.Stress

/-- The operation with which producers push. -/
inductive PushKind
  | push
  | waitPush
  | tryPush
  | nonblockingPush
  | waitPushTimeout
  deriving DecidableEq, Repr

/-- The operation with which consumers pop. -/
inductive PopKind
  | valuePop
  | waitPop
  | tryPop
  | nonblockingPop
  | waitPopTimeout
  deriving DecidableEq, Repr

/-- A timed wait lasts a millisecond. -/
def timeout : Timeout := .after 1000000

def PushKind.method (value : Nat) : PushKind → Method Nat
  | push => Back.queue.push value
  | waitPush => Back.queue.waitPush value
  | tryPush => Back.queue.tryPush value
  | nonblockingPush => ⟨.nonblockingPush value, id⟩
  | waitPushTimeout => ⟨.waitPush value timeout, id⟩

def PopKind.method : PopKind → Method Nat
  | valuePop => Front.queue.valuePop
  | waitPop => Front.queue.waitPop
  | tryPop => Front.queue.tryPop
  | nonblockingPop => ⟨.nonblockingPop, id⟩
  | waitPopTimeout => ⟨.waitPop timeout, id⟩

/-- What is run. -/
structure Plan where
  producers : Nat
  consumers : Nat
  /-- How many numbers each producer pushes. -/
  each : Nat
  capacity : Nat
  pushKind : PushKind
  popKind : PopKind

/-- The state of one thread. -/
inductive Worker
  /-- It pushes the numbers from `next` up to `stop`, and so many have been refused. -/
  | producer (kind : PushKind) (next stop rejected : Nat)
  /-- It has taken these numbers, the newest first. -/
  | consumer (kind : PopKind) (seen : List Nat) (ended : Bool)
  | closer (ended : Bool)

namespace Worker

def request? : Worker → Option (Request Nat)
  | producer kind next stop _ =>
    if next < stop then some { queue := 0, operation := (kind.method next).operation }
    else none
  | consumer kind _ false => some { queue := 0, operation := kind.method.operation }
  | closer false => some { queue := 0, operation := .close }
  | _ => none

/-- What a producer makes of an answer: a closed queue has refused the number for good, any
other failure is tried again.
-/
def resumeProducer (kind : PushKind) (next stop rejected : Nat) : Answer Nat → Worker
  | .push (.ok ()) | .offered (.ok ()) => .producer kind (next + 1) stop rejected
  | .push (.error (.closed _)) | .offered (.error _) =>
    .producer kind (next + 1) stop (rejected + 1)
  | _ => .producer kind next stop rejected

/-- What a consumer makes of an answer: closure is the end, any other failure is tried
again.
-/
def resumeConsumer (kind : PopKind) (seen : List Nat) : Answer Nat → Worker
  | .pop (.ok value) | .received (.ok value) => .consumer kind (value :: seen) false
  | .pop (.error .closed) | .received (.error _) => .consumer kind seen true
  | _ => .consumer kind seen false

def resume : Worker → Answer Nat → Worker
  | producer kind next stop rejected, answer =>
    resumeProducer kind next stop rejected ((kind.method next).read answer)
  | consumer kind seen false, answer => resumeConsumer kind seen (kind.method.read answer)
  | consumer kind seen true, _ => .consumer kind seen true
  | closer _, _ => .closer true

def program : Program Worker Nat := { request?, resume }

/-- Whether a thread has pushed all its numbers, or has none to push. -/
def producerDone : Worker → Bool
  | producer _ next stop _ => stop ≤ next
  | _ => true

def seen : Worker → Option (List Nat)
  | consumer _ seen _ => some seen.reverse
  | _ => none

def rejected : Worker → Nat
  | producer _ _ _ rejected => rejected
  | _ => 0

end Worker

/-- What came of it. -/
structure Summary where
  /-- All numbers that were taken, in increasing order. -/
  popped : List Nat
  /-- Whether each consumer saw the numbers of each producer in increasing order. -/
  inOrder : Bool
  rejected : Nat
  left : Nat
  closed : Bool
  deriving DecidableEq, Repr

/-- Whether a list increases. -/
def increases : List Nat → Bool
  | a :: b :: rest => a < b && increases (b :: rest)
  | _ => true

/-- Whether the numbers of each producer stand in increasing order. -/
def inOrder (plan : Plan) (seen : List Nat) : Bool :=
  (List.range plan.producers).all fun i =>
    increases (seen.filter fun value => i * plan.each ≤ value && value < (i + 1) * plan.each)

/-- Producers and consumers before their first call. -/
def workers (plan : Plan) : List Worker :=
  ((List.range plan.producers).map fun i =>
      .producer plan.pushKind (i * plan.each) ((i + 1) * plan.each) 0)
    ++ List.replicate plan.consumers (.consumer plan.popKind [] false)

/-- A bound on the rounds that a plan takes: with a consumer at work, each round moves some
number on, or wakes somebody who then does.
-/
def roundBudget (plan : Plan) : Nat :=
  8 * (plan.producers * plan.each + plan.producers + plan.consumers) + 64

/-- Everybody has patience for the short waits of the plan. -/
def patience : Patience := ⟨Clock.lastTick⟩

/-- The size of a slot for a number. -/
def slotBytes : Nat := 8

/-- Runs a plan: the producers to their end, then the closer, then the consumers. -/
def run (plan : Plan) : Except CreateError Summary := do
  let queue ← (Queue.ofCapacity slotBytes plan.capacity).result
  let start : World Worker Nat := { programs := workers plan }
  let (start, _) := start.addQueue queue
  let budget := roundBudget plan
  let pushed := start.run Worker.program {} patience
    (fun w => w.programs.all Worker.producerDone) budget
  let (closing, _) := pushed.spawn (.closer false)
  let last := closing.run Worker.program {} patience (fun _ => false) budget
  let seen := last.programs.filterMap Worker.seen
  let buffered := last.queues.map fun queue => queue.state.ring.length
  return {
    popped := seen.flatten.mergeSort
    inOrder := seen.all (inOrder plan)
    rejected := (last.programs.map Worker.rejected).foldl (· + ·) 0
    left := buffered.foldl (· + ·) 0
    closed := last.queues.all fun queue => queue.state.closed }

end Conduit.Stress
