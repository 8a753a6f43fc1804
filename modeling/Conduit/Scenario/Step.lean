import Conduit.Endpoint
import Conduit.Json.Value
import Conduit.Queue.Create
import Conduit.Stage

/-!
Scenarios: what one caller asks of named queues, one step after the other, where a step that
has to wait goes on beside the later ones.
-/

namespace Conduit.Scenario

open Json (Value)

/-- What a stage makes of an element. -/
inductive Transform
  | identity
  /-- An array of the element. -/
  | wrap
  /-- The length of a string in bytes. -/
  | byteLength
  deriving DecidableEq, Repr

def Transform.apply : Transform → Value → Value
  | identity, v => v
  | wrap, v => .arr [v]
  | byteLength, v => v.byteLength

/-- How a queue is to be built. -/
inductive Construction
  | ofCapacity (capacity : Nat)
  | labelled (capacity : Nat) (label : String)
  | ofConfig (config : Config)
  | ofItems (capacity : Nat) (items : Items Value)
  | labelledOfItems (capacity : Nat) (items : Items Value) (label : String)
  | ofConfigAndItems (config : Config) (items : Items Value)

/-- The size of a slot for a JSON value. -/
def slotBytes : Nat := 32

def Construction.create : Construction → Creation Value
  | ofCapacity capacity => Queue.ofCapacity slotBytes capacity
  | labelled capacity label => Queue.labelled slotBytes capacity label
  | ofConfig config => Queue.ofConfig slotBytes config
  | ofItems capacity items => Queue.ofItems slotBytes capacity items
  | labelledOfItems capacity items label =>
    Queue.labelledOfItems slotBytes capacity items label
  | ofConfigAndItems config items => Queue.ofConfigAndItems slotBytes config items

/-- What is asked of a queue. -/
inductive Command
  | waitPush (value : Value)
  | tryPush (value : Value)
  | nonblockingPush (value : Value)
  | waitPushTimeout (value : Value) (timeout : Timeout)
  | push (value : Value)
  | waitPop
  | tryPop
  | nonblockingPop
  | waitPopTimeout (timeout : Timeout)
  | valuePop
  | drain
  | close
  /-- Asked at the end at which values enter. -/
  | isClosed
  /-- Asked at the end at which they leave. -/
  | frontIsClosed
  | isEmpty
  | isFull
  | length
  | inspect (property : Property)
  | drainUntilClosed (failAt : Option Nat)
  | mapStage (output : String) (transform : Transform)

namespace Command

/-- The name of a command in scenarios. -/
def name : Command → String
  | waitPush _ => "wait_push"
  | tryPush _ => "try_push"
  | nonblockingPush _ => "nonblocking_push"
  | waitPushTimeout .. => "wait_push_timeout"
  | push _ => "push"
  | waitPop => "wait_pop"
  | tryPop => "try_pop"
  | nonblockingPop => "nonblocking_pop"
  | waitPopTimeout _ => "wait_pop_timeout"
  | valuePop => "value_pop"
  | drain => "drain"
  | close => "close"
  | isClosed => "is_closed"
  | frontIsClosed => "front_is_closed"
  | isEmpty => "is_empty"
  | isFull => "is_full"
  | length => "len"
  | inspect .capacity => "capacity"
  | inspect .name => "name"
  | inspect (.description _) => "debug"
  | drainUntilClosed _ => "drain_until_closed"
  | mapStage .. => "map_stage"

/-- The other queue that a command needs. -/
def output? : Command → Option String
  | mapStage output _ => some output
  | _ => none

/-- The task that carries out a command on the queue with the number `queue`, held as `route`
tells, or from it to the one with the number `output`.
-/
def task (route : Route) (alreadyFailing : Bool) (queue output : Nat) (command : Command)
    : Task Value :=
  let single (method : Method Value) : Task Value := .call queue method alreadyFailing
  match command with
  | waitPush v => single (route.back.waitPush v)
  | tryPush v => single (route.back.tryPush v)
  | nonblockingPush v => single ⟨.nonblockingPush v, id⟩
  | waitPushTimeout v timeout => single ⟨.waitPush v timeout, id⟩
  | push v => single (route.back.push v)
  | waitPop => single route.front.waitPop
  | tryPop => single route.front.tryPop
  | nonblockingPop => single ⟨.nonblockingPop, id⟩
  | waitPopTimeout timeout => single ⟨.waitPop timeout, id⟩
  | valuePop => single route.front.valuePop
  | drain => single ⟨.drain, id⟩
  | close => single route.back.close
  | isClosed => single route.back.isClosed
  | frontIsClosed => single route.front.isClosed
  | isEmpty => single route.front.isEmpty
  | isFull => single ⟨.isFull, id⟩
  | length => single ⟨.length, id⟩
  | inspect property => single ⟨.inspect property, id⟩
  | drainUntilClosed failAt => .drain queue route.front.waitPop failAt 0 []
  | mapStage _ transform =>
    .ofStage
      { input := queue
        output
        take := route.front.waitPop
        give := route.back.push
        close := route.back.close
        transform := transform.apply }

end Command

/-- A command to a queue and the circumstances under which it is carried out. -/
structure Order where
  queue : String
  command : Command
  route : Route := .own
  /-- Whether its thread is already failing for some other reason. -/
  alreadyFailing : Bool := false
  /-- Whether the log sink fails in the first event that it reports under a lock. -/
  sinkFails : Bool := false

/-- What is done in a step of a scenario. -/
inductive Errand
  | create (name : String) (construction : Construction)
  /-- Installs a log sink although there is one, which changes nothing. -/
  | initTracing
  | operate (order : Order)

/-- A step of a scenario. -/
inductive Step
  | plain (errand : Errand)
  /-- The log sink keeps the order waiting in the first event that it reports under a lock,
  until the errands are done as far as they can be. -/
  | held (order : Order) (errands : List Errand)

end Conduit.Scenario
