import Conduit.Ring.Basic
import Std.Data.TreeMap.Lemmas

/-!
A ring as a list. A ring is valid if both indices name slots and exactly the slots from the
pop index up to the push index hold a value. Every operation keeps that, and does to the
list of elements what it should: push appends, pop takes the head, drain takes everything.
-/

namespace Conduit.Ring

variable {α : Type}

-----------------------------------------------------------------------------------------
-- Slots by their distance from the pop index
-----------------------------------------------------------------------------------------

/-- The slot that lies `offset` slots after the pop index. -/
def slotAt (ring : Ring α) (offset : Nat) : Nat :=
  if ring.popIndex + offset < ring.slotCount then ring.popIndex + offset
  else ring.popIndex + offset - ring.slotCount

/-- Both indices name slots, and a slot holds a value if and only if it lies fewer than
`length` slots after the pop index.
-/
structure Valid (ring : Ring α) : Prop where
  push_lt : ring.pushIndex < ring.slotCount
  pop_lt : ring.popIndex < ring.slotCount
  filled : ∀ index, (ring.slot? index).isSome ↔ ∃ k < ring.length, index = ring.slotAt k

theorem length_lt_slotCount {ring : Ring α} (valid : ring.Valid)
    : ring.length < ring.slotCount := by
  have := valid.push_lt
  have := valid.pop_lt
  unfold length
  split <;> omega

theorem length_le_capacity {ring : Ring α} (valid : ring.Valid)
    : ring.length ≤ ring.capacity :=
  Nat.le_of_lt_succ (length_lt_slotCount valid)

theorem isEmpty_iff {ring : Ring α} (valid : ring.Valid)
    : ring.isEmpty = true ↔ ring.length = 0 := by
  have := valid.push_lt
  have := valid.pop_lt
  simp only [isEmpty, beq_iff_eq, length]
  split <;> omega

theorem isFull_iff {ring : Ring α} (valid : ring.Valid)
    : ring.isFull = true ↔ ring.length = ring.capacity := by
  have := valid.push_lt
  have := valid.pop_lt
  grind [isFull, length, next, slotCount]

/-- The push index lies behind the last element. -/
theorem slotAt_length {ring : Ring α} (valid : ring.Valid)
    : ring.slotAt ring.length = ring.pushIndex := by
  have := valid.push_lt
  have := valid.pop_lt
  simp only [slotAt, length]
  split <;> split <;> omega

/-- Different distances below the number of slots lead to different slots. -/
theorem slotAt_inj {ring : Ring α} (valid : ring.Valid) {j k : Nat}
    (hj : j < ring.slotCount) (hk : k < ring.slotCount)
    : ring.slotAt j = ring.slotAt k ↔ j = k := by
  have := valid.pop_lt
  simp only [slotAt]
  split <;> split <;> omega

theorem next_slotAt {ring : Ring α} (valid : ring.Valid) {k : Nat}
    (hk : k < ring.slotCount) : ring.next (ring.slotAt k) = ring.slotAt (k + 1) := by
  have := valid.pop_lt
  simp only [next, slotAt]
  split <;> split <;> split <;> omega

-----------------------------------------------------------------------------------------
-- The list of elements
-----------------------------------------------------------------------------------------

/-- A walk along the slots meets the values at consecutive distances. -/
theorem elementsFrom_eq {ring : Ring α} (valid : ring.Valid) (k count : Nat)
    (within : k + count ≤ ring.slotCount)
    : ring.elementsFrom (ring.slotAt k) count
      = ((List.range' k count).map fun j => ring.slot? (ring.slotAt j)).filterMap id := by
  induction count generalizing k with
  | zero => rfl
  | succ count ih =>
    rw [elementsFrom, next_slotAt valid (by omega), ih (k + 1) (by omega), List.range'_succ,
      List.map_cons, List.filterMap_cons]
    cases ring.slot? (ring.slotAt k) <;> rfl

theorem toList_eq {ring : Ring α} (valid : ring.Valid)
    : ring.toList
      = ((List.range ring.length).map fun j => ring.slot? (ring.slotAt j)).filterMap id := by
  have first : ring.slotAt 0 = ring.popIndex := by
    have := valid.pop_lt
    simp only [slotAt]
    split <;> omega
  have within := length_lt_slotCount valid
  rw [toList, ← first, elementsFrom_eq valid 0 _ (by omega), List.range_eq_range']

/-- Each slot on the way holds a value, so none is skipped. -/
theorem length_toList {ring : Ring α} (valid : ring.Valid)
    : ring.toList.length = ring.length := by
  rw [toList_eq valid, List.filterMap_map, List.length_filterMap_eq_countP]
  refine (List.countP_eq_length.2 fun j hj => ?_).trans List.length_range
  exact (valid.filled _).2 ⟨j, List.mem_range.1 hj, rfl⟩

-----------------------------------------------------------------------------------------
-- Operations
-----------------------------------------------------------------------------------------

theorem valid_empty (capacity : Nat) : (empty capacity : Ring α).Valid where
  push_lt := by simp [empty, slotCount]
  pop_lt := by simp [empty, slotCount]
  filled index := by simp [empty, slot?, length]

theorem toList_empty (capacity : Nat) : (empty capacity : Ring α).toList = [] := by
  simp [toList, empty, length, elementsFrom]

/-- A full ring hands the value back. -/
theorem pushBack_of_full {ring : Ring α} (full : ring.isFull = true) (value : α)
    : ring.pushBack value = .error value := by
  simp [pushBack, full]

/-- The ring after a push that succeeds. -/
def pushed (ring : Ring α) (value : α) : Ring α :=
  { ring with
    slots := ring.slots.insert ring.pushIndex value
    pushIndex := ring.next ring.pushIndex }

theorem pushBack_of_not_full {ring : Ring α} (room : ring.isFull = false) (value : α)
    : ring.pushBack value = .ok (ring.pushed value) := by
  simp [pushBack, room, pushed]

theorem slot?_pushed (ring : Ring α) (value : α) (index : Nat)
    : (ring.pushed value).slot? index
      = if ring.pushIndex = index then some value else ring.slot? index := by
  simp [pushed, slot?, Std.TreeMap.getElem?_insert]

theorem length_pushed {ring : Ring α} (valid : ring.Valid) (room : ring.isFull = false)
    (value : α) : (ring.pushed value).length = ring.length + 1 := by
  have := valid.push_lt
  have := valid.pop_lt
  grind [isFull, pushed, length, next, slotCount]

theorem slotAt_pushed (ring : Ring α) (value : α) (k : Nat)
    : (ring.pushed value).slotAt k = ring.slotAt k := rfl

theorem valid_pushed {ring : Ring α} (valid : ring.Valid) (room : ring.isFull = false)
    (value : α) : (ring.pushed value).Valid where
  push_lt := by
    have := valid.push_lt
    grind [pushed, next, slotCount]
  pop_lt := valid.pop_lt
  filled index := by
    rw [slot?_pushed, length_pushed valid room]
    simp only [slotAt_pushed]
    constructor
    · intro some
      split at some
      · exact ⟨ring.length, by omega, by rw [slotAt_length valid]; omega⟩
      · obtain ⟨k, hk, rfl⟩ := (valid.filled index).1 some
        exact ⟨k, by omega, rfl⟩
    · rintro ⟨k, hk, rfl⟩
      split
      · rfl
      · rename_i other
        refine (valid.filled _).2 ⟨k, ?_, rfl⟩
        rcases Nat.lt_succ_iff_lt_or_eq.1 hk with below | same
        · exact below
        · subst same
          exact absurd (slotAt_length valid).symm other

/-- A push appends its value. -/
theorem toList_pushed {ring : Ring α} (valid : ring.Valid) (room : ring.isFull = false)
    (value : α) : (ring.pushed value).toList = ring.toList ++ [value] := by
  rw [toList_eq (valid_pushed valid room value), toList_eq valid, length_pushed valid room,
    List.range_succ, List.map_append, List.filterMap_append]
  congr 2
  · refine List.map_congr_left fun j hj => ?_
    have hj := List.mem_range.1 hj
    have within := length_lt_slotCount valid
    rw [slotAt_pushed, slot?_pushed, if_neg]
    rw [← slotAt_length valid, slotAt_inj valid within (by omega)]
    omega
  · rw [List.map_singleton, slotAt_pushed, slotAt_length valid, slot?_pushed, if_pos rfl]
    rfl

/-- The ring after a pop that succeeds. -/
def popped (ring : Ring α) : Ring α :=
  { ring with
    slots := ring.slots.erase ring.popIndex
    popIndex := ring.next ring.popIndex }

theorem popFront?_of_empty {ring : Ring α} (empty : ring.isEmpty = true)
    : ring.popFront? = none := by
  simp [popFront?, empty]

theorem slot?_popped (ring : Ring α) (index : Nat)
    : ring.popped.slot? index
      = if ring.popIndex = index then none else ring.slot? index := by
  simp [popped, slot?, Std.TreeMap.getElem?_erase]

theorem length_popped {ring : Ring α} (valid : ring.Valid) (some : ring.isEmpty = false)
    : ring.popped.length + 1 = ring.length := by
  have := valid.push_lt
  have := valid.pop_lt
  grind [isEmpty, popped, length, next, slotCount]

theorem slotAt_popped {ring : Ring α} (valid : ring.Valid) {k : Nat}
    (hk : k < ring.slotCount) : ring.popped.slotAt k = ring.slotAt (k + 1) := by
  have := valid.pop_lt
  grind [popped, slotAt, next, slotCount]

theorem slotAt_zero {ring : Ring α} (valid : ring.Valid)
    : ring.slotAt 0 = ring.popIndex := by
  have := valid.pop_lt
  simp only [slotAt]
  split <;> omega

theorem valid_popped {ring : Ring α} (valid : ring.Valid) (some : ring.isEmpty = false)
    : ring.popped.Valid where
  push_lt := valid.push_lt
  pop_lt := by
    have := valid.pop_lt
    grind [popped, next, slotCount]
  filled index := by
    have within := length_lt_slotCount valid
    have shorter := length_popped valid some
    rw [slot?_popped]
    constructor
    · intro filled
      split at filled
      · simp at filled
      · rename_i other
        obtain ⟨k, hk, rfl⟩ := (valid.filled index).1 filled
        cases k with
        | zero => exact absurd (slotAt_zero valid).symm other
        | succ k => exact ⟨k, by omega, (slotAt_popped valid (by omega)).symm⟩
    · rintro ⟨k, hk, rfl⟩
      rw [slotAt_popped valid (by omega), if_neg]
      · exact (valid.filled _).2 ⟨k + 1, by omega, rfl⟩
      · rw [← slotAt_zero valid, slotAt_inj valid (by omega) (by omega)]
        omega

/-- A pop takes the head of the list and leaves its tail. -/
theorem popFront?_eq {ring : Ring α} (valid : ring.Valid) (some : ring.isEmpty = false)
    : ∃ value, ring.popFront? = Option.some (value, ring.popped)
      ∧ ring.toList = value :: ring.popped.toList := by
  have within := length_lt_slotCount valid
  have shorter := length_popped valid some
  have first : (ring.slot? ring.popIndex).isSome :=
    (valid.filled _).2 ⟨0, by omega, (slotAt_zero valid).symm⟩
  obtain ⟨value, held⟩ := Option.isSome_iff_exists.1 first
  refine ⟨value, by simp [popFront?, some, held, popped], ?_⟩
  rw [toList_eq valid, toList_eq (valid_popped valid some), ← shorter,
    List.range_succ_eq_map, List.map_cons, slotAt_zero valid, held, List.map_map]
  have later : ∀ j ∈ List.range ring.popped.length,
      ring.slot? (ring.slotAt (j + 1)) = ring.popped.slot? (ring.popped.slotAt j) := by
    intro j hj
    have hj := List.mem_range.1 hj
    rw [slotAt_popped valid (by omega), slot?_popped, if_neg]
    rw [← slotAt_zero valid, slotAt_inj valid (by omega) (by omega)]
    omega
  rw [← List.map_congr_left later]
  rfl

/-- Pops as many as there are elements give the whole list and leave nothing. -/
theorem popAll_eq {ring : Ring α} (valid : ring.Valid) {budget : Nat}
    (enough : ring.length ≤ budget)
    : ∃ last, ring.popAll budget = (ring.toList, last) ∧ last.Valid ∧ last.length = 0
      ∧ last.capacity = ring.capacity := by
  induction budget generalizing ring with
  | zero =>
    have none : ring.length = 0 := by omega
    have nothing := length_toList valid
    rw [none, List.length_eq_zero_iff] at nothing
    exact ⟨ring, by rw [popAll, nothing], valid, none, rfl⟩
  | succ budget ih =>
    cases some : ring.isEmpty with
    | true =>
      have none := (isEmpty_iff valid).1 some
      have nothing := length_toList valid
      rw [none, List.length_eq_zero_iff] at nothing
      refine ⟨ring, ?_, valid, none, rfl⟩
      rw [popAll, popFront?_of_empty some, nothing]
    | false =>
      obtain ⟨value, pop, list⟩ := popFront?_eq valid some
      have shorter := length_popped valid some
      obtain ⟨last, rest, kept, none, same⟩ := ih (valid_popped valid some) (by omega)
      refine ⟨last, ?_, kept, none, same⟩
      rw [popAll, pop]
      simp only [rest, list]

/-- A drain gives the whole list and leaves nothing. -/
theorem drain_eq {ring : Ring α} (valid : ring.Valid)
    : ∃ last, ring.drain = (ring.toList, last) ∧ last.Valid ∧ last.length = 0
      ∧ last.capacity = ring.capacity :=
  popAll_eq valid (Nat.le_of_lt (length_lt_slotCount valid))

end Conduit.Ring
