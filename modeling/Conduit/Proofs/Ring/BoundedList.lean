import Conduit.Ring.Lemmas
import Mathlib.Data.List.Basic

/-! A ring as a list that cannot grow beyond its bound.
The slots between the indices hold the list, in order, wherever the indices stand. Every
command does to the ring what it does to the list, and has the same reply, so that after any
commands the list tells all there is to know of the ring.
-/

namespace Conduit.Ring

variable {α : Type}

-----------------------------------------------------------------------------------------
-- Commands
-----------------------------------------------------------------------------------------

/-- What can be asked of a ring. -/
inductive Command (α : Type)
  | push (value : α)
  | pop
  | drain

/-- What it replies. -/
inductive Reply (α : Type)
  | pushed
  | refused (value : α)
  | popped (value? : Option α)
  | drained (values : List α)
  deriving DecidableEq, Repr

/-- Carries out a command. A push that is refused and a pop that finds nothing leave the
ring as it is.
-/
def apply (ring : Ring α) : Command α → Reply α × Ring α
  | .push value =>
    match ring.pushBack value with
    | .ok after => (.pushed, after)
    | .error value => (.refused value, ring)
  | .pop =>
    match ring.popFront? with
    | some (value, after) => (.popped (some value), after)
    | none => (.popped none, ring)
  | .drain =>
    let (values, after) := ring.drain
    (.drained values, after)

/-- Carries out one command after the other. -/
def run (ring : Ring α) : List (Command α) → List (Reply α) × Ring α
  | [] => ([], ring)
  | command :: rest =>
    let (reply, next) := ring.apply command
    let (replies, last) := next.run rest
    (reply :: replies, last)

/-- What a command does to a list that may have `bound` elements. -/
def Command.onList (bound : Nat) (list : List α) : Command α → Reply α × List α
  | push value =>
    if list.length < bound then (.pushed, list ++ [value]) else (.refused value, list)
  | pop => (.popped list.head?, list.tail)
  | drain => (.drained list, [])

/-- What commands do to such a list, one after the other. -/
def Command.runOnList (bound : Nat) (list : List α)
    : List (Command α) → List (Reply α) × List α
  | [] => ([], list)
  | command :: rest =>
    let (reply, next) := command.onList bound list
    let (replies, last) := runOnList bound next rest
    (reply :: replies, last)

-----------------------------------------------------------------------------------------
-- Reading the slots
-----------------------------------------------------------------------------------------

/-- Reading the slots from the pop index up to the push index, modulo their number, gives
these values and meets no slot without one.
-/
def Reads (ring : Ring α) (list : List α) : Prop :=
  list.map some
  = (List.range
        ((ring.pushIndex + ring.slotCount - ring.popIndex) % ring.slotCount)).map
      fun k => ring.slot? ((ring.popIndex + k) % ring.slotCount)

/-- The next slot is the one that the remainder names. -/
theorem next_eq_mod (ring : Ring α) {index : Nat} (within : index < ring.slotCount)
    : ring.next index = (index + 1) % ring.slotCount := by
  unfold next
  split
  · rename_i last
    rw [last, Nat.mod_self]
  · exact (Nat.mod_eq_of_lt (by omega)).symm

/-- So is the one that lies some slots after the pop index. -/
theorem slotAt_eq_mod {ring : Ring α} (valid : ring.Valid) {k : Nat}
    (within : k < ring.slotCount)
    : ring.slotAt k = (ring.popIndex + k) % ring.slotCount := by
  have pop := valid.pop_lt
  unfold slotAt
  split
  · rename_i below
    exact (Nat.mod_eq_of_lt below).symm
  · rename_i beyond
    rw [Nat.mod_eq_sub_mod (by omega), Nat.mod_eq_of_lt (by omega)]

/-- The length is the distance of the indices, modulo the number of slots. -/
theorem length_eq_mod {ring : Ring α} (valid : ring.Valid)
    : ring.length = (ring.pushIndex + ring.slotCount - ring.popIndex) % ring.slotCount := by
  have push := valid.push_lt
  have pop := valid.pop_lt
  unfold length
  split
  · rw [Nat.mod_eq_sub_mod (by omega), Nat.mod_eq_of_lt (by omega)]
    omega
  · rw [Nat.mod_eq_of_lt (by omega)]
    omega

/-- The slots of a valid ring read as its list, since each of them holds a value. -/
theorem reads_toList {ring : Ring α} (valid : ring.Valid) : ring.Reads ring.toList := by
  have within := length_lt_slotCount valid
  unfold Reads
  rw [← length_eq_mod valid, toList_eq valid, List.filterMap_map, List.map_filterMap]
  refine List.filterMap_eq_map_iff_forall_eq_some.mpr fun k member => ?_
  have inside := List.mem_range.mp member
  obtain ⟨value, held⟩ :=
    Option.isSome_iff_exists.mp ((valid.filled _).mpr ⟨k, inside, rfl⟩)
  rw [← slotAt_eq_mod valid (by omega), Function.comp_apply, id, held]
  rfl

-----------------------------------------------------------------------------------------
-- Every command does to the ring what it does to the list
-----------------------------------------------------------------------------------------

/-- A ring of this bound that holds this list. -/
structure Holds (bound : Nat) (ring : Ring α) (list : List α) : Prop where
  valid : ring.Valid
  capacity : ring.capacity = bound
  list : ring.toList = list

section
variable {bound : Nat} {ring : Ring α} {list : List α}

theorem Holds.length (holds : ring.Holds bound list) : ring.length = list.length := by
  rw [← holds.list, length_toList holds.valid]

theorem Holds.slotCount (holds : ring.Holds bound list) : ring.slotCount = bound + 1 :=
  congrArg (· + 1) holds.capacity

theorem Holds.isEmpty_iff (holds : ring.Holds bound list)
    : ring.isEmpty = true ↔ list.length = 0 := by
  rw [Ring.isEmpty_iff holds.valid, holds.length]

theorem Holds.isFull_iff (holds : ring.Holds bound list)
    : ring.isFull = true ↔ list.length = bound := by
  rw [Ring.isFull_iff holds.valid, holds.length, holds.capacity]

theorem Holds.reads (holds : ring.Holds bound list) : ring.Reads list :=
  holds.list ▸ reads_toList holds.valid

/-- With room, a push appends its value. -/
theorem Holds.push (holds : ring.Holds bound list) (room : list.length < bound) (value : α)
    : ∃ after,
        ring.apply (.push value) = (.pushed, after) ∧ after.Holds bound (list ++ [value]) := by
  have notFull : ring.isFull = false := by
    rw [Bool.eq_false_iff]
    intro full
    exact Nat.ne_of_lt room (holds.isFull_iff.mp full)
  refine ⟨ring.pushed value, ?_, valid_pushed holds.valid notFull value, holds.capacity, ?_⟩
  · simp only [apply, pushBack_of_not_full notFull]
  · rw [toList_pushed holds.valid notFull, holds.list]

/-- Without room, a push hands its value back. -/
theorem Holds.refuse (holds : ring.Holds bound list) (full : list.length = bound) (value : α)
    : ring.apply (.push value) = (.refused value, ring) := by
  simp only [apply, pushBack_of_full (holds.isFull_iff.mpr full)]

/-- A pop takes the head. -/
theorem Holds.pop {value : α} {rest : List α} (holds : ring.Holds bound (value :: rest))
    : ∃ after, ring.apply .pop = (.popped (some value), after) ∧ after.Holds bound rest := by
  have notEmpty : ring.isEmpty = false := by
    rw [Bool.eq_false_iff]
    intro empty
    cases holds.isEmpty_iff.mp empty
  obtain ⟨head, pops, order⟩ := popFront?_eq holds.valid notEmpty
  obtain ⟨rfl, rfl⟩ := List.cons.inj (holds.list.symm.trans order)
  refine ⟨ring.popped, ?_, valid_popped holds.valid notEmpty, holds.capacity, rfl⟩
  simp only [apply, pops]

theorem Holds.pop_nothing (holds : ring.Holds bound [])
    : ring.apply .pop = (.popped none, ring) := by
  simp only [apply, popFront?_of_empty (holds.isEmpty_iff.mpr rfl)]

/-- A drain takes everything. -/
theorem Holds.drain (holds : ring.Holds bound list)
    : ∃ after, ring.apply .drain = (.drained list, after) ∧ after.Holds bound [] := by
  obtain ⟨after, drains, valid, none, same⟩ := drain_eq holds.valid
  refine ⟨after, ?_, valid, same.trans holds.capacity, ?_⟩
  · simp only [apply, drains, holds.list]
  · rw [← List.length_eq_zero_iff, length_toList valid, none]

/-- A ring of this bound has room, or as many elements as it may have. -/
theorem Holds.room_or_full (holds : ring.Holds bound list)
    : list.length < bound ∨ list.length = bound := by
  have most := length_le_capacity holds.valid
  rw [holds.length, holds.capacity] at most
  exact Nat.lt_or_eq_of_le most

/-- One command, by cases on what it is and on whether there is room, or anything to take. -/
theorem Holds.apply (holds : ring.Holds bound list) (command : Command α)
    : (ring.apply command).1 = (command.onList bound list).1
      ∧ (ring.apply command).2.Holds bound (command.onList bound list).2 := by
  cases command with
  | push value =>
    simp only [Command.onList]
    rcases holds.room_or_full with room | full
    · obtain ⟨after, pushes, kept⟩ := holds.push room value
      rw [pushes, if_pos room]
      exact ⟨rfl, kept⟩
    · rw [holds.refuse full, if_neg (Nat.not_lt.mpr (Nat.le_of_eq full.symm))]
      exact ⟨rfl, holds⟩
  | pop =>
    cases list with
    | nil =>
      rw [holds.pop_nothing]
      exact ⟨rfl, holds⟩
    | cons value rest =>
      obtain ⟨after, pops, kept⟩ := holds.pop
      rw [pops]
      exact ⟨rfl, kept⟩
  | drain =>
    obtain ⟨after, drains, kept⟩ := holds.drain
    rw [drains]
    exact ⟨rfl, kept⟩

/-- Any commands, by induction on them. -/
theorem Holds.run (holds : ring.Holds bound list) (commands : List (Command α))
    : (ring.run commands).1 = (Command.runOnList bound list commands).1
      ∧ (ring.run commands).2.Holds bound (Command.runOnList bound list commands).2 := by
  induction commands generalizing ring list with
  | nil => exact ⟨rfl, holds⟩
  | cons command rest ih =>
    obtain ⟨same, kept⟩ := holds.apply command
    obtain ⟨later, left⟩ := ih kept
    refine ⟨?_, left⟩
    simp only [Ring.run, Command.runOnList, same, later]

end

theorem holds_empty (bound : Nat) : (empty bound : Ring α).Holds bound [] :=
  ⟨valid_empty bound, rfl, toList_empty bound⟩

-----------------------------------------------------------------------------------------
-- After any commands
-----------------------------------------------------------------------------------------

/-- What a list tells of the ring of this bound that holds it. Both indices name slots, the
slots between them read as the list, and all that can be asked of the ring is answered by
the list: a push appends if there is room, and otherwise a pushed value comes back and the
ring is as it was; a pop takes the head, and only if there is none it leaves the ring as it
was; a drain takes everything.
-/
structure IsBoundedList (bound : Nat) (ring : Ring α) (list : List α) : Prop where
  push_lt : ring.pushIndex < bound + 1
  pop_lt : ring.popIndex < bound + 1
  reads : ring.Reads list
  bounded : list.length ≤ bound
  next : ∀ index < bound + 1, ring.next index = (index + 1) % (bound + 1)
  length : ring.length = list.length
  isEmpty : ring.isEmpty = true ↔ list.length = 0
  isFull : ring.isFull = true ↔ list.length = bound
  push
    : list.length < bound
      → ∀ value,
        ∃ after,
          ring.apply (.push value) = (.pushed, after) ∧ after.Reads (list ++ [value])
  refuse
    : ¬ list.length < bound → ∀ value, ring.apply (.push value) = (.refused value, ring)
  pop
    : ∀ {value rest},
        list = value :: rest
        → ∃ after, ring.apply .pop = (.popped (some value), after) ∧ after.Reads rest
  nothing : ring.apply .pop = (.popped none, ring) ↔ list = []
  drain : ∃ after, ring.apply .drain = (.drained list, after) ∧ after.Reads []

theorem Holds.isBoundedList {bound : Nat} {ring : Ring α} {list : List α}
    (holds : ring.Holds bound list)
    : ring.IsBoundedList bound list := by
  have valid := holds.valid
  have slots := holds.slotCount
  refine ⟨slots ▸ valid.push_lt, slots ▸ valid.pop_lt, holds.reads, ?_, ?_, holds.length,
    holds.isEmpty_iff, holds.isFull_iff, ?push, ?refuse, ?pop, ?nothing, ?drain⟩
  · rcases holds.room_or_full with room | full <;> omega
  · intro index within
    rw [← slots] at within ⊢
    exact ring.next_eq_mod within
  case push =>
    intro room value
    obtain ⟨after, pushes, kept⟩ := holds.push room value
    exact ⟨after, pushes, kept.reads⟩
  case refuse =>
    intro noRoom value
    exact holds.refuse (holds.room_or_full.resolve_left noRoom) value
  case pop =>
    intro value rest same
    subst same
    obtain ⟨after, pops, kept⟩ := holds.pop
    exact ⟨after, pops, kept.reads⟩
  case nothing =>
    cases list with
    | nil => exact iff_of_true holds.pop_nothing rfl
    | cons value rest =>
      obtain ⟨after, pops, _⟩ := holds.pop
      refine iff_of_false (fun none => ?_) (List.cons_ne_nil _ _)
      cases (congrArg Prod.fst pops).symm.trans (congrArg Prod.fst none)
  case drain =>
    obtain ⟨after, drains, kept⟩ := holds.drain
    exact ⟨after, drains, kept.reads⟩

/-- An empty ring and an empty list of the same bound have the same replies to any commands,
and after them the list tells all that can be asked of the ring.
-/
theorem run_isBoundedList (bound : Nat) (commands : List (Command α))
    : let list := Command.runOnList bound [] commands
      let ring := (empty bound : Ring α).run commands
      ring.1 = list.1 ∧ ring.2.IsBoundedList bound list.2 := by
  obtain ⟨same, holds⟩ := (holds_empty bound).run commands
  exact ⟨same, holds.isBoundedList⟩

/-- Two slots hold elements on both sides of the end of the slots. -/
example
    : ((empty 2).run [.push 1, .push 2, .pop, .push 3, .push 4, .drain, .pop]).1
      = [.pushed, .pushed, .popped (some 1), .pushed, .refused 4, .drained [2, 3],
        .popped none] := rfl

end Conduit.Ring
