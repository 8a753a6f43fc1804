import Conduit.Proofs.Ring.BoundedList

/-! Which slots of a ring hold a value.
The life of a ring is followed access by access: every write stores a value and every read
moves one out, also those in the middle of a drain. Exactly the slots between the indices
hold a value all the time, so that no access meets a slot in the wrong state, and whatever
was stored has left exactly once when the ring itself has gone.
-/

namespace Conduit.Ring

variable {α : Type}

-----------------------------------------------------------------------------------------
-- The slots between the indices
-----------------------------------------------------------------------------------------

/-- Whether a slot lies in the half-open range from the pop index up to the push index,
modulo the number of slots: it is nearer behind the pop index than the push index is.
-/
def Live (ring : Ring α) (index : Nat) : Prop :=
  index < ring.slotCount
  ∧ (index + ring.slotCount - ring.popIndex) % ring.slotCount
    < (ring.pushIndex + ring.slotCount - ring.popIndex) % ring.slotCount

section
variable {ring : Ring α}

/-- The slot at such a distance behind the pop index is the one that it was taken of. -/
theorem slotAt_distance (valid : ring.Valid) {index : Nat} (within : index < ring.slotCount)
    : ring.slotAt ((index + ring.slotCount - ring.popIndex) % ring.slotCount) = index := by
  have pop := valid.pop_lt
  rcases Nat.lt_or_ge index ring.popIndex with before | behind
  · rw [Nat.mod_eq_of_lt (by omega), slotAt, if_neg (by omega)]
    omega
  · rw [Nat.mod_eq_sub_mod (by omega), Nat.mod_eq_of_lt (by omega), slotAt,
      if_pos (by omega)]
    omega

/-- The live slots are the ones that lie fewer than `length` behind the pop index. -/
theorem live_iff (valid : ring.Valid) {index : Nat}
    : ring.Live index ↔ ∃ k < ring.length, index = ring.slotAt k := by
  have pop := valid.pop_lt
  have shorter := length_lt_slotCount valid
  rw [Live, ← length_eq_mod valid]
  constructor
  · rintro ⟨within, near⟩
    exact ⟨_, near, (slotAt_distance valid within).symm⟩
  · rintro ⟨k, near, rfl⟩
    have within : ring.slotAt k < ring.slotCount := by
      unfold slotAt
      split <;> omega
    have distance := slotAt_distance valid within
    rw [slotAt_inj valid (Nat.mod_lt _ (by omega)) (by omega)] at distance
    exact ⟨within, distance.symm ▸ near⟩

/-- A valid ring holds values in its live slots and nowhere else. -/
theorem isSome_slot?_iff (valid : ring.Valid) (index : Nat)
    : (ring.slot? index).isSome ↔ ring.Live index :=
  (valid.filled index).trans (live_iff valid).symm

/-- The push index is not live, so what is written there replaces nothing. -/
theorem slot?_pushIndex (valid : ring.Valid) : ring.slot? ring.pushIndex = none := by
  rw [← Option.not_isSome_iff_eq_none, isSome_slot?_iff valid]
  rintro ⟨_, nearer⟩
  exact Nat.lt_irrefl _ nearer

end

-----------------------------------------------------------------------------------------
-- Single accesses
-----------------------------------------------------------------------------------------

/-- What is popped is what the slot at the pop index held. -/
theorem slot?_popIndex {ring rest : Ring α} {value : α}
    (pops : ring.popFront? = some (value, rest))
    : ring.slot? ring.popIndex = some value := by
  cases empty : ring.isEmpty with
  | true => cases (popFront?_of_empty empty).symm.trans pops
  | false =>
    rw [popFront?, empty, if_neg Bool.false_ne_true] at pops
    obtain ⟨_, held, same⟩ := Option.map_eq_some_iff.mp pops
    rw [held, (Prod.mk.inj same).1]

/-- What the accesses to the slots of a ring find there. Exactly the live slots hold a value;
a pop that is not refused reads a slot that holds one, which it leaves empty; a push that is
not refused writes to a slot that holds none; and no other slot is touched.
-/
structure SlotsExact (ring : Ring α) : Prop where
  filled : ∀ index, (ring.slot? index).isSome ↔ ring.Live index
  read
    : ring.isEmpty = false
      → ∃ value after,
        ring.slot? ring.popIndex = some value
        ∧ ring.popFront? = some (value, after)
        ∧ ∀ index,
          after.slot? index = if index = ring.popIndex then none else ring.slot? index
  write
    : ring.isFull = false
      → ring.slot? ring.pushIndex = none
        ∧ ∀ value,
          ∃ after,
            ring.pushBack value = .ok after
            ∧ ∀ index,
              after.slot? index
              = if index = ring.pushIndex then some value else ring.slot? index

theorem slotsExact_of_valid {ring : Ring α} (valid : ring.Valid) : ring.SlotsExact := by
  refine ⟨isSome_slot?_iff valid, ?read, ?write⟩
  case read =>
    intro notEmpty
    obtain ⟨value, pops, _⟩ := popFront?_eq valid notEmpty
    refine ⟨value, ring.popped, slot?_popIndex pops, pops, fun index => ?_⟩
    simp only [slot?_popped, eq_comm]
  case write =>
    intro room
    refine ⟨slot?_pushIndex valid, fun value => ?_⟩
    refine ⟨ring.pushed value, pushBack_of_not_full room value, fun index => ?_⟩
    simp only [slot?_pushed, eq_comm]

-----------------------------------------------------------------------------------------
-- A life of accesses
-----------------------------------------------------------------------------------------

/-- How an empty ring of this bound comes to be another one, access by access, with the
values that it has accepted and those that have been moved out of it, both in order.
-/
inductive Life (bound : Nat) : List α → List α → Ring α → Prop
  | new : Life bound [] [] (empty bound)
  | push {accepted moved ring after value} (life : Life bound accepted moved ring)
    (pushes : ring.pushBack value = .ok after)
    : Life bound (accepted ++ [value]) moved after
  | pop {accepted moved ring after value} (life : Life bound accepted moved ring)
    (pops : ring.popFront? = some (value, after))
    : Life bound accepted (moved ++ [value]) after

/-- Popping until there is nothing left, which is what a drain does, and what is done with a
ring that is dropped: the values that are moved out, and the ring that remains.
-/
inductive PopsOut : Ring α → List α → Ring α → Prop
  | nothing {ring} (none : ring.popFront? = none) : PopsOut ring [] ring
  | more {ring value next rest last} (some : ring.popFront? = some (value, next))
    (later : PopsOut next rest last)
    : PopsOut ring (value :: rest) last

section
variable {bound : Nat} {ring last : Ring α} {accepted moved : List α}

theorem PopsOut.exhausted {values : List α} (popsOut : ring.PopsOut values last)
    : last.popFront? = none := by
  induction popsOut with
  | nothing none => exact none
  | more _ _ ih => exact ih

/-- A pop that is allowed as often as there are elements ends for no other reason than that
nothing is left, by induction on how often it is allowed.
-/
theorem popsOut_popAll (valid : ring.Valid) {budget : Nat} (enough : ring.length ≤ budget)
    : ring.PopsOut (ring.popAll budget).1 (ring.popAll budget).2 := by
  induction budget generalizing ring with
  | zero =>
    have empty := (isEmpty_iff valid).mpr (Nat.le_zero.mp enough)
    exact .nothing (popFront?_of_empty empty)
  | succ budget ih =>
    rw [popAll]
    cases empty : ring.isEmpty with
    | true =>
      rw [popFront?_of_empty empty]
      exact .nothing (popFront?_of_empty empty)
    | false =>
      obtain ⟨value, pops, _⟩ := popFront?_eq valid empty
      have shorter := length_popped valid empty
      rw [pops]
      exact .more pops (ih (valid_popped valid empty) (by omega))

theorem popsOut_drain (valid : ring.Valid) : ring.PopsOut ring.drain.1 ring.drain.2 :=
  popsOut_popAll valid (Nat.le_of_lt (length_lt_slotCount valid))

/-- Whatever has been accepted has been moved out or is in the ring, by induction on the
accesses.
-/
theorem Life.intact (life : Life bound accepted moved ring)
    : ring.Valid ∧ accepted = moved ++ ring.toList := by
  induction life with
  | new => exact ⟨valid_empty bound, (toList_empty bound).symm⟩
  | @push _ _ ring _ value _ pushes ih =>
    obtain ⟨valid, balance⟩ := ih
    cases full : ring.isFull with
    | true => cases (pushBack_of_full full value).symm.trans pushes
    | false =>
      obtain rfl := Except.ok.inj ((pushBack_of_not_full full value).symm.trans pushes)
      refine ⟨valid_pushed valid full value, ?_⟩
      rw [toList_pushed valid full, balance, List.append_assoc]
  | @pop _ _ ring _ _ _ pops ih =>
    obtain ⟨valid, balance⟩ := ih
    cases empty : ring.isEmpty with
    | true => cases (popFront?_of_empty empty).symm.trans pops
    | false =>
      obtain ⟨value, takes, order⟩ := popFront?_eq valid empty
      obtain ⟨rfl, rfl⟩ := Prod.mk.inj (Option.some.inj (takes.symm.trans pops))
      refine ⟨valid_popped valid empty, ?_⟩
      rw [balance, order, List.append_assoc, List.singleton_append]

theorem Life.popsOut {values : List α} (life : Life bound accepted moved ring)
    (popsOut : ring.PopsOut values last)
    : Life bound accepted (moved ++ values) last := by
  induction popsOut generalizing moved with
  | nothing => rwa [List.append_nil]
  | more some _ ih =>
    simpa only [List.append_assoc, List.singleton_append] using ih (life.pop some)

/-- A ring out of which no more can be popped has no value in any slot. -/
theorem Life.nothing_left (life : Life bound accepted moved ring)
    (none : ring.popFront? = none)
    : ring.toList = [] ∧ ∀ index, ring.slot? index = Option.none := by
  obtain ⟨valid, _⟩ := life.intact
  cases empty : ring.isEmpty with
  | false =>
    obtain ⟨_, pops, _⟩ := popFront?_eq valid empty
    cases none.symm.trans pops
  | true =>
    have zero := (isEmpty_iff valid).mp empty
    refine ⟨List.length_eq_zero_iff.mp ((length_toList valid).trans zero), fun index => ?_⟩
    rw [← Option.not_isSome_iff_eq_none, valid.filled]
    rintro ⟨k, near, _⟩
    omega

end

-----------------------------------------------------------------------------------------
-- Commands are such accesses
-----------------------------------------------------------------------------------------

/-- The values that a command has put into a ring, as its reply tells. -/
def Command.accepted : Command α → Reply α → List α
  | push value, .pushed => [value]
  | _, _ => []

/-- The values that have been moved out, as the reply tells. -/
def Reply.moved : Reply α → List α
  | popped value? => value?.toList
  | drained values => values
  | _ => []

/-- All values that commands have put into a ring. -/
def acceptedBy (commands : List (Command α)) (replies : List (Reply α)) : List α :=
  (List.zipWith Command.accepted commands replies).flatten

section
variable {bound : Nat} {ring : Ring α} {accepted moved : List α}

/-- A command makes no other accesses than a push, or some pops, by cases on it. -/
theorem Life.apply (life : Life bound accepted moved ring) (command : Command α)
    : Life bound (accepted ++ command.accepted (ring.apply command).1)
        (moved ++ (ring.apply command).1.moved) (ring.apply command).2 := by
  cases command with
  | push value =>
    cases pushes : ring.pushBack value with
    | ok after =>
      simpa only [Ring.apply, pushes, Command.accepted, Reply.moved, List.append_nil]
        using life.push pushes
    | error refused =>
      simpa only [Ring.apply, pushes, Command.accepted, Reply.moved, List.append_nil]
        using life
  | pop =>
    cases pops : ring.popFront? with
    | none =>
      simpa only [Ring.apply, pops, Command.accepted, Reply.moved, Option.toList_none,
        List.append_nil] using life
    | some found =>
      simpa only [Ring.apply, pops, Command.accepted, Reply.moved, Option.toList_some,
        List.append_nil] using life.pop pops
  | drain =>
    simpa only [Ring.apply, Command.accepted, Reply.moved, List.append_nil]
      using life.popsOut (popsOut_drain life.intact.1)

/-- So it is with all commands together, by induction on them. -/
theorem Life.run (life : Life bound accepted moved ring) (commands : List (Command α))
    : Life bound (accepted ++ acceptedBy commands (ring.run commands).1)
        (moved ++ (ring.run commands).1.flatMap Reply.moved) (ring.run commands).2 := by
  induction commands generalizing accepted moved ring with
  | nil => simpa only [Ring.run, acceptedBy, List.zipWith_nil_left, List.flatten_nil,
      List.flatMap_nil, List.append_nil] using life
  | cons command rest ih =>
    simpa only [Ring.run, acceptedBy, List.zipWith_cons_cons, List.flatten_cons,
      List.flatMap_cons, List.append_assoc] using ih (life.apply command)

end

-----------------------------------------------------------------------------------------
-- From the first access to the last
-----------------------------------------------------------------------------------------

/-- At any time in the life of a ring exactly the live slots hold a value, every access finds
its slot as it should be, what was accepted has been moved out once or is still there, in
the same order, and a drain would be one pop after the other. Any commands make such a life.
When the ring is dropped after them, by popping until there is nothing left, no slot holds a
value any more, and everything that was accepted has been moved out once.
-/
theorem slots_exact (bound : Nat)
    : (∀ {accepted moved : List α} {ring : Ring α},
        Life bound accepted moved ring
        → ring.SlotsExact
          ∧ accepted = moved ++ ring.toList
          ∧ ring.PopsOut ring.drain.1 ring.drain.2)
      ∧ ∀ commands : List (Command α),
        let (replies, ring) := (empty bound : Ring α).run commands
        let accepted := acceptedBy commands replies
        let moved := replies.flatMap Reply.moved
        Life bound accepted moved ring
        ∧ ∃ left last,
          ring.PopsOut left last
          ∧ Life bound accepted (moved ++ left) last
          ∧ (∀ index, last.slot? index = none)
          ∧ accepted = moved ++ left := by
  refine ⟨fun life => ?_, fun commands => ?_⟩
  · obtain ⟨valid, balance⟩ := life.intact
    exact ⟨slotsExact_of_valid valid, balance, popsOut_drain valid⟩
  · have life : Life bound _ _ ((empty bound : Ring α).run commands).2 :=
      Life.new.run commands
    have drop := popsOut_drain life.intact.1
    have gone := life.popsOut drop
    obtain ⟨nothing, emptied⟩ := gone.nothing_left drop.exhausted
    have balance := gone.intact.2
    rw [nothing, List.append_nil] at balance
    exact ⟨life, _, _, drop, gone, emptied, balance⟩

/-- Two elements lie on both sides of the end of the slots, and the slot between the indices
that is behind them is empty.
-/
theorem slots_exact_around
    : ∃ ring : Ring Nat,
        Life 2 [1, 2, 3, 4] [1, 2] ring
        ∧ (ring.popIndex = 2 ∧ ring.pushIndex = 1 ∧ ring.slot? 1 = none)
        ∧ ring.SlotsExact
        ∧ [1, 2, 3, 4] = [1, 2] ++ ring.toList
        ∧ ring.PopsOut ring.drain.1 ring.drain.2 := by
  have life := ((slots_exact 2).2 [.push 1, .push 2, .pop, .push 3, .pop, .push (4 : Nat)]).1
  exact ⟨_, life, ⟨rfl, rfl, rfl⟩, (slots_exact 2).1 life⟩

end Conduit.Ring
