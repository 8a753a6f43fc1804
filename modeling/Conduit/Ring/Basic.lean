import Std.Data.TreeMap.Basic

/-!
A circular store for a bounded queue: `capacity + 1` slots and two indices into them. One
slot always stays unused, so equal indices mean empty, a push index just behind the pop
index means full, and no separate count is kept.
-/

namespace Conduit

/-- The slots that hold a value, the index of the next write and the index of the next read.
A slot that has never been written, or whose value has been moved out, holds nothing.
-/
structure Ring (α : Type) where
  capacity : Nat
  slots : Std.TreeMap Nat α := {}
  pushIndex : Nat := 0
  popIndex : Nat := 0

namespace Ring

variable {α : Type}

/-- An empty ring for `capacity` elements. -/
def empty (capacity : Nat) : Ring α := { capacity }

/-- One slot more than the ring may hold elements. -/
def slotCount (ring : Ring α) : Nat := ring.capacity + 1

/-- The slot after `index`, the first one after the last. -/
def next (ring : Ring α) (index : Nat) : Nat :=
  if index + 1 = ring.slotCount then 0 else index + 1

/-- What the slot at `index` holds. -/
def slot? (ring : Ring α) (index : Nat) : Option α := ring.slots[index]?

def isEmpty (ring : Ring α) : Bool := ring.pushIndex == ring.popIndex

def isFull (ring : Ring α) : Bool := ring.next ring.pushIndex == ring.popIndex

/-- How many elements lie from the pop index up to the push index, around the end of the
slots if the push index is the smaller one.
-/
def length (ring : Ring α) : Nat :=
  if ring.pushIndex ≥ ring.popIndex then ring.pushIndex - ring.popIndex
  else ring.slotCount - ring.popIndex + ring.pushIndex

/-- Appends `value`, or hands it back if every usable slot is taken. The index moves once
the value is in place.
-/
def pushBack (ring : Ring α) (value : α) : Except α (Ring α) :=
  if ring.isFull then .error value
  else
    .ok
      { ring with
        slots := ring.slots.insert ring.pushIndex value
        pushIndex := ring.next ring.pushIndex }

/-- Moves the oldest element out of its slot. An empty ring has none. -/
def popFront? (ring : Ring α) : Option (α × Ring α) :=
  if ring.isEmpty then none
  else
    (ring.slot? ring.popIndex).map fun value =>
      (value,
        { ring with
          slots := ring.slots.erase ring.popIndex
          popIndex := ring.next ring.popIndex })

/-- Pops until nothing is left, at most `budget` times. -/
def popAll (ring : Ring α) : (budget : Nat) → List α × Ring α
  | 0 => ([], ring)
  | budget + 1 =>
    match ring.popFront? with
    | none => ([], ring)
    | some (value, rest) =>
      let (values, last) := rest.popAll budget
      (value :: values, last)

/-- Removes every element, oldest first. No ring holds more elements than it has slots. -/
def drain (ring : Ring α) : List α × Ring α := ring.popAll ring.slotCount

/-- The elements from the pop index on, `count` of them. -/
def elementsFrom (ring : Ring α) (index : Nat) : (count : Nat) → List α
  | 0 => []
  | count + 1 => (ring.slot? index).toList ++ ring.elementsFrom (ring.next index) count

/-- The elements in the order in which they leave. -/
def toList (ring : Ring α) : List α := ring.elementsFrom ring.popIndex ring.length

/-- The largest number of bytes that one block of memory can have. -/
def largestBlock : Nat := Nat.pow 2 63 - 1

/-- An empty ring, or none if its slots of `slotBytes` bytes each exceed the largest block
of memory.
-/
def allocate? (slotBytes capacity : Nat) : Option (Ring α) :=
  if (capacity + 1) * slotBytes ≤ largestBlock then some (empty capacity) else none

end Ring

end Conduit
