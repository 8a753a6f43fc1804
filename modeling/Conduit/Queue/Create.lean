import Conduit.Queue.Basic

/-!
Building queues. All ways to build one end in the same place: settings and a sequence of
first elements, which must fit as a whole.
-/

namespace Conduit

/-- A sequence of elements, finite or not: the element at each index, up to the first index
without one.
-/
abbrev Items (α : Type) := Nat → Option α

namespace Items

variable {α : Type}

def empty : Items α := fun _ => none

def ofList (values : List α) : Items α :=
  let values := values.toArray
  fun index => values[index]?

end Items

/-- Why there is no queue. -/
inductive CreateError
  | config (error : ConfigError)
  /-- Its slots would take more memory than there can be. -/
  | unallocatable
  deriving DecidableEq, Repr

/-- A new queue or the reason why there is none, and how many elements were taken from the
sequence.
-/
structure Creation (α : Type) where
  result : Except CreateError (Queue α)
  events : List Event := []
  pulled : Nat := 0

namespace Ring

variable {α : Type}

/-- Appends elements from `index` on until the sequence ends or the ring is full. A full
ring is noticed only with the next element in hand. Gives the ring, or none if an element was
left over, and the number of elements taken.
-/
def load (items : Items α) (ring : Ring α) (index : Nat)
    : (budget : Nat) → Option (Ring α) × Nat
  | 0 => (some ring, index)
  | budget + 1 =>
    match items index with
    | none => (some ring, index)
    | some value =>
      match ring.pushBack value with
      | .error _ => (none, index + 1)
      | .ok ring => load items ring (index + 1) budget

end Ring

namespace Queue

variable {α : Type}

/-- An open queue on a ring, with nobody at it. -/
def ofRing (config : Config) (ring : Ring α) : Queue α :=
  { config, state := Guarded.ofRing ring }

/-- A queue with the given settings and first elements. Elements take `slotBytes` bytes each.
At most one element more than fits is taken from the sequence.
-/
def ofConfigAndItems (slotBytes : Nat) (config : Config) (items : Items α) : Creation α :=
  match config.validate with
  | .error error => { result := .error (.config error) }
  | .ok () =>
    match Ring.allocate? slotBytes config.capacity with
    | none => { result := .error .unallocatable }
    | some ring =>
      match ring.load items 0 (config.capacity + 1) with
      | (none, pulled) =>
        { result := .error (.config (.tooManyElements config.capacity)), pulled }
      | (some ring, pulled) =>
        { result := .ok (ofRing config ring)
          events := [.created config.capacity config.label ring.length]
          pulled }

/-- An empty queue with the given settings. -/
def ofConfig (slotBytes : Nat) (config : Config) : Creation α :=
  ofConfigAndItems slotBytes config .empty

/-- An empty queue without a name. -/
def ofCapacity (slotBytes capacity : Nat) : Creation α :=
  ofConfig slotBytes (.ofCapacity capacity)

/-- An empty queue with a name. -/
def labelled (slotBytes capacity : Nat) (label : String) : Creation α :=
  ofConfig slotBytes ((Config.ofCapacity capacity).withLabel label)

/-- A queue with first elements and without a name. -/
def ofItems (slotBytes capacity : Nat) (items : Items α) : Creation α :=
  ofConfigAndItems slotBytes (.ofCapacity capacity) items

/-- A queue with first elements and a name. -/
def labelledOfItems (slotBytes capacity : Nat) (items : Items α) (label : String)
    : Creation α :=
  ofConfigAndItems slotBytes ((Config.ofCapacity capacity).withLabel label) items

end Queue

end Conduit
