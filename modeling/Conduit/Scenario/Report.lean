import Conduit.Scenario.Run

/-!
Replies as JSON values. Members stand in the order of their names, and lists without an
order of their own in the order of their compact texts, so equal replies have equal texts.
-/

namespace Conduit.Scenario

open Json (Value)

/-- An object with its members in the order of their names. -/
def object (members : List (String × Value)) : Value :=
  .obj (members.mergeSort fun a b => decide (a.1 ≤ b.1))

/-- Values in the order of their texts. -/
def sortedByText (values : List Value) : List Value :=
  ((values.map fun v => (v.text, v)).mergeSort fun a b => decide (a.1 ≤ b.1)).map (·.2)

def optionalString : Option String → Value
  | none => .null
  | some s => .str s

/-- The result of something that went well. -/
def okay (v : Value) : Value := object [("ok", v)]

/-- The result of something that went wrong, with further members. -/
def failure (identifier message : String) (more : List (String × Value)) : Value :=
  object (("error", .str identifier) :: ("message", .str message) :: more)

def status (s : Status) : String × Value := ("status", .str s.text)

def pushResult : Except (PushError Value) Unit → Value
  | .ok () => object [("ok", .null), status .success]
  | .error e =>
    failure e.status.identifier e.message [status e.status, ("value", e.value)]

def popResult : Except PopError Value → Value
  | .ok v => object [("ok", v), status .success]
  | .error e => failure e.status.identifier e.message [status e.status]

def answer : Answer Value → Value
  | .push result => pushResult result
  | .pop result => popResult result
  | .offered (.ok ()) => okay .null
  | .offered (.error e) => failure "QueueClosed" e.message [("value", e.value)]
  | .received (.ok v) => okay v
  | .received (.error e) => failure "QueueClosed" e.message []
  | .drained values => okay (.arr values)
  | .done => okay .null
  | .flag b => okay (.bool b)
  | .count n => okay (.int n)
  | .name label => okay (optionalString label)
  | .text s => okay (.str s)
  | .sinkFailed => failure "Panic" "log sink failed" []

def report : Report Value → Value
  | .answered a => answer a
  | .drained count seen => okay (object [("count", .int count), ("seen", .arr seen)])
  | .consumerFailed seen => failure "Panic" "consumer failed" [("seen", .arr seen)]
  | .staged count dropped =>
    okay (object [("count", .int count), ("dropped", .int dropped)])

def configError (e : ConfigError) : Value := failure e.identifier e.message []

def createError : CreateError → Value
  | .config e => configError e
  | .unallocatable => failure "Panic" "capacity overflow" []

def result : Result → Value
  | .created config =>
    okay (object [("capacity", .int config.capacity), ("name", optionalString config.label)])
  | .refused e => createError e
  | .tracing => okay .null
  | .noQueue => object [("error", .str "NoQueue")]
  | .blocked => object [("blocked", .bool true)]
  | .reported r => report r

def woken (w : Woken) : Value :=
  object [("q", .str w.queue), ("do", .str w.command.name), ("r", report w.report)]

def event (e : Event) : Value :=
  object
    ([("level", .str e.level.text), ("message", .str e.message)]
      ++ (e.label?.toList.map fun label => ("label", .str label))
      ++ e.counts.map fun (name, n) => (name, .int n))

def snapshot (s : Snapshot) : Value :=
  .arr [.bool s.closed, .int s.length, .bool s.empty, .bool s.full]

/-- A reply, with the events of the step if they are asked for. -/
def reply (withLog : Bool) (r : Reply) : Value :=
  let held := r.held.map fun results =>
    match results with
    | none => Value.null
    | some results => .arr (results.map fun r => object [("r", result r)])
  object
    ([("r", result r.result),
        ("state", object (r.state.map fun (name, s) => (name, snapshot s)))]
      ++ (r.pulled.toList.map fun n => ("pulled", .int n))
      ++ (held.toList.map fun v => ("held", v))
      ++ (if r.woken.isEmpty then []
        else [("woken", .arr (sortedByText (r.woken.map woken)))])
      ++ if withLog then [("log", .arr (sortedByText (r.log.map event)))] else [])

def remains (r : Remains) : Value :=
  object [("blocked", .int r.blocked), ("left", .arr r.left)]

def finale (f : Finale) : Value :=
  object
    [("queues", object (f.queues.map fun (name, r) => (name, remains r))),
      ("woken", .arr (sortedByText (f.woken.map woken)))]

/-- A whole scenario: the replies to its steps and its end. -/
def transcript (withLog : Bool) (steps : List Step) : Value :=
  let (replies, last) := run steps
  object [("steps", .arr (replies.map (reply withLog))), ("end", finale last)]

end Conduit.Scenario
