import Conduit.Proofs.Ring.Slots

/-! The indices of a ring in words of 64 bits.
A ring is computed once more with words in place of numbers, in arithmetic that wraps around
and in arithmetic that refuses to. Both follow the numbers through any commands as long as
the number of slots is a word, up to the very last word. Refusing arithmetic never refuses,
so no result on the way is ever out of range.
-/

namespace Conduit.Ring

variable {α : Type}

-----------------------------------------------------------------------------------------
-- Arithmetic on words
-----------------------------------------------------------------------------------------

/-- What must not happen while a ring is computed. -/
inductive Fault
  /-- A sum or a difference is no word. -/
  | overflow
  /-- An index names no slot. -/
  | outOfBounds
  /-- A slot is read that holds no value. -/
  | uninitialized
  deriving DecidableEq, Repr

/-- How words are added and subtracted. -/
structure Arithmetic where
  add : UInt64 → UInt64 → Except Fault UInt64
  sub : UInt64 → UInt64 → Except Fault UInt64

/-- Every result is taken modulo the number of words. -/
def Arithmetic.wrapping : Arithmetic where
  add a b := .ok (a + b)
  sub a b := .ok (a - b)

/-- A result that is out of range is refused. -/
def Arithmetic.checked : Arithmetic where
  add a b := if a.toNat + b.toNat < UInt64.size then .ok (a + b) else .error .overflow
  sub a b := if b.toNat ≤ a.toNat then .ok (a - b) else .error .overflow

/-- Results in range are those of numbers. -/
structure Arithmetic.Exact (arithmetic : Arithmetic) : Prop where
  add
    : ∀ a b : UInt64,
        a.toNat + b.toNat < UInt64.size
        → ∃ sum, arithmetic.add a b = .ok sum ∧ sum.toNat = a.toNat + b.toNat
  sub
    : ∀ a b : UInt64,
        b.toNat ≤ a.toNat
        → ∃ rest, arithmetic.sub a b = .ok rest ∧ rest.toNat = a.toNat - b.toNat

theorem exact_wrapping : Arithmetic.wrapping.Exact where
  add a b inRange := ⟨a + b, rfl, (UInt64.toNat_add a b).trans (Nat.mod_eq_of_lt inRange)⟩
  sub a b inRange :=
    ⟨a - b, rfl, UInt64.toNat_sub_of_le a b (UInt64.le_iff_toNat_le.mpr inRange)⟩

theorem exact_checked : Arithmetic.checked.Exact where
  add a b inRange := by
    obtain ⟨sum, adds, same⟩ := exact_wrapping.add a b inRange
    exact ⟨sum, by rw [← adds]; exact if_pos inRange, same⟩
  sub a b inRange := by
    obtain ⟨rest, subtracts, same⟩ := exact_wrapping.sub a b inRange
    exact ⟨rest, by rw [← subtracts]; exact if_pos inRange, same⟩

-----------------------------------------------------------------------------------------
-- A ring of words
-----------------------------------------------------------------------------------------

/-- The slots, their number and the two indices, as words. -/
structure Words (α : Type) where
  slotCount : UInt64
  slots : Std.TreeMap Nat α := {}
  pushIndex : UInt64 := 0
  popIndex : UInt64 := 0

namespace Words

variable (arithmetic : Arithmetic)

/-- One slot more than the ring may hold elements. -/
def withCapacity (capacity : UInt64) : Except Fault (Words α) := do
  return { slotCount := ← arithmetic.add capacity 1 }

/-- The slot after `index`, the first one after the last. -/
def next (words : Words α) (index : UInt64) : Except Fault UInt64 := do
  let next ← arithmetic.add index 1
  return if next = words.slotCount then 0 else next

def isEmpty (words : Words α) : Bool := words.pushIndex == words.popIndex

def isFull (words : Words α) : Except Fault Bool := do
  return (← words.next arithmetic words.pushIndex) == words.popIndex

/-- The difference of the indices, or the number of slots less the pop index and then plus
the push index.
-/
def length (words : Words α) : Except Fault UInt64 :=
  if words.pushIndex ≥ words.popIndex then arithmetic.sub words.pushIndex words.popIndex
  else do arithmetic.add (← arithmetic.sub words.slotCount words.popIndex) words.pushIndex

/-- Stores `value` in a slot that there must be. -/
def write (words : Words α) (index : UInt64) (value : α) : Except Fault (Words α) :=
  if index < words.slotCount then
    .ok { words with slots := words.slots.insert index.toNat value }
  else .error .outOfBounds

/-- Moves the value out of a slot that there must be. -/
def read (words : Words α) (index : UInt64) : Except Fault (α × Words α) :=
  if index < words.slotCount then
    match words.slots[index.toNat]? with
    | some value => .ok (value, { words with slots := words.slots.erase index.toNat })
    | none => .error .uninitialized
  else .error .outOfBounds

/-- Appends `value`, or hands it back if every usable slot is taken. -/
def pushBack (words : Words α) (value : α) : Except Fault (Except α (Words α)) := do
  let next ← words.next arithmetic words.pushIndex
  if next = words.popIndex then return .error value
  else return .ok { ← words.write words.pushIndex value with pushIndex := next }

/-- Moves the oldest element out of its slot, once the index has moved on. -/
def popFront? (words : Words α) : Except Fault (Option (α × Words α)) := do
  if words.popIndex = words.pushIndex then return none
  else
    let next ← words.next arithmetic words.popIndex
    return some (← { words with popIndex := next }.read words.popIndex)

/-- Pops until nothing is left, at most `budget` times. -/
def popAll (words : Words α) : (budget : Nat) → Except Fault (List α × Words α)
  | 0 => return ([], words)
  | budget + 1 => do
    match ← words.popFront? arithmetic with
    | none => return ([], words)
    | some (value, rest) =>
      let (values, last) ← rest.popAll budget
      return (value :: values, last)

/-- Removes every element, after counting them. -/
def drain (words : Words α) : Except Fault (List α × Words α) := do
  let _ ← words.length arithmetic
  words.popAll arithmetic words.slotCount.toNat

def apply (words : Words α) : Command α → Except Fault (Reply α × Words α)
  | .push value => do
    match ← words.pushBack arithmetic value with
    | .ok after => return (.pushed, after)
    | .error value => return (.refused value, words)
  | .pop => do
    match ← words.popFront? arithmetic with
    | some (value, after) => return (.popped (some value), after)
    | none => return (.popped none, words)
  | .drain => do
    let (values, after) ← words.drain arithmetic
    return (.drained values, after)

/-- Carries out one command after the other. -/
def run (words : Words α) : List (Command α) → Except Fault (List (Reply α) × Words α)
  | [] => return ([], words)
  | command :: rest => do
    let (reply, next) ← words.apply arithmetic command
    let (replies, last) ← next.run rest
    return (reply :: replies, last)

end Words

-----------------------------------------------------------------------------------------
-- Words follow the numbers
-----------------------------------------------------------------------------------------

/-- Words that stand for the numbers of a ring, which is valid. -/
structure Words.Follows (words : Words α) (ring : Ring α) : Prop where
  valid : ring.Valid
  slotCount : words.slotCount.toNat = ring.slotCount
  slots : words.slots = ring.slots
  pushIndex : words.pushIndex.toNat = ring.pushIndex
  popIndex : words.popIndex.toNat = ring.popIndex

namespace Words.Follows

variable {arithmetic : Arithmetic} {words : Words α} {ring : Ring α}

/-- There are no more slots than words, so the number behind an index is a word. -/
theorem next (exact : arithmetic.Exact) (follows : words.Follows ring) {index : UInt64}
    (within : index.toNat < ring.slotCount)
    : ∃ next,
        words.next arithmetic index = .ok next
        ∧ next.toNat = ring.next index.toNat
        ∧ next < words.slotCount := by
  have slots := follows.slotCount
  have last := words.slotCount.toNat_lt_size
  have one : (1 : UInt64).toNat = 1 := rfl
  obtain ⟨sum, adds, same⟩ := exact.add index 1 (by omega)
  refine ⟨if sum = words.slotCount then 0 else sum, by rw [Words.next, adds]; rfl, ?_⟩
  rw [UInt64.lt_iff_toNat_lt, slots]
  by_cases wraps : sum = words.slotCount
  · rw [if_pos wraps, Ring.next, if_pos (by rw [← slots, ← wraps, same, one])]
    exact ⟨rfl, by rw [UInt64.toNat_zero]; omega⟩
  · have short : sum.toNat ≠ ring.slotCount := by
      rw [← slots]
      exact fun equal => wraps (UInt64.toNat_inj.mp equal)
    rw [same, one] at short
    rw [if_neg wraps, Ring.next, if_neg short, same, one]
    exact ⟨rfl, by omega⟩

theorem isEmpty (follows : words.Follows ring) : words.isEmpty = ring.isEmpty := by
  rw [Words.isEmpty, Ring.isEmpty, ← follows.pushIndex, ← follows.popIndex, Bool.eq_iff_iff,
    beq_iff_eq, beq_iff_eq, UInt64.toNat_inj]

theorem push_lt (follows : words.Follows ring) : words.pushIndex.toNat < ring.slotCount :=
  follows.pushIndex ▸ follows.valid.push_lt

theorem pop_lt (follows : words.Follows ring) : words.popIndex.toNat < ring.slotCount :=
  follows.popIndex ▸ follows.valid.pop_lt

/-- The slot behind the push index, and whether the pop index stands there. -/
theorem isFull_iff (exact : arithmetic.Exact) (follows : words.Follows ring)
    : ∃ next,
        words.next arithmetic words.pushIndex = .ok next
        ∧ next.toNat = ring.next ring.pushIndex
        ∧ (next = words.popIndex ↔ ring.isFull = true) := by
  obtain ⟨next, steps, same, _⟩ := follows.next exact follows.push_lt
  rw [follows.pushIndex] at same
  refine ⟨next, steps, same, ?_⟩
  rw [Ring.isFull, beq_iff_eq, ← same, ← follows.popIndex, UInt64.toNat_inj]

theorem isFull (exact : arithmetic.Exact) (follows : words.Follows ring)
    : words.isFull arithmetic = .ok ring.isFull := by
  obtain ⟨next, steps, _, full⟩ := follows.isFull_iff exact
  have same : (next == words.popIndex) = ring.isFull := by
    rw [Bool.eq_iff_iff, beq_iff_eq, full]
  rw [Words.isFull, steps, ← same]
  rfl

/-- The difference of the indices is no less than zero, and around the end of the slots the
pop index is subtracted first, so that neither step leaves the words.
-/
theorem length (exact : arithmetic.Exact) (follows : words.Follows ring)
    : ∃ count, words.length arithmetic = .ok count ∧ count.toNat = ring.length := by
  have slots := follows.slotCount
  have push := follows.pushIndex
  have pop := follows.popIndex
  have within := follows.valid.pop_lt
  have last := words.slotCount.toNat_lt_size
  by_cases ahead : words.popIndex ≤ words.pushIndex
  · have order := UInt64.le_iff_toNat_le.mp ahead
    obtain ⟨count, subtracts, same⟩ := exact.sub _ _ order
    refine ⟨count, by rw [Words.length, if_pos ahead, subtracts], ?_⟩
    rw [same, push, pop, Ring.length, if_pos (by omega)]
  · have order := Nat.lt_of_not_le fun le => ahead (UInt64.le_iff_toNat_le.mpr le)
    obtain ⟨behind, subtracts, rest⟩ := exact.sub words.slotCount words.popIndex (by omega)
    obtain ⟨count, adds, sum⟩ := exact.add behind words.pushIndex (by omega)
    refine ⟨count, ?_, ?_⟩
    · rw [Words.length, if_neg ahead, subtracts]
      exact adds
    · rw [sum, rest, slots, pop, push, Ring.length, if_neg (by omega)]

theorem push_inBounds (follows : words.Follows ring) : words.pushIndex < words.slotCount := by
  rw [UInt64.lt_iff_toNat_lt, follows.slotCount]
  exact follows.push_lt

theorem pop_inBounds (follows : words.Follows ring) : words.popIndex < words.slotCount := by
  rw [UInt64.lt_iff_toNat_lt, follows.slotCount]
  exact follows.pop_lt

/-- Without room, a push hands its value back. -/
theorem pushBack_full (exact : arithmetic.Exact) (follows : words.Follows ring)
    (full : ring.isFull = true) (value : α)
    : words.pushBack arithmetic value = .ok (.error value) := by
  obtain ⟨next, steps, _, behind⟩ := follows.isFull_iff exact
  rw [Words.pushBack, steps]
  exact if_pos (behind.mpr full)

/-- With room, a push stores its value in a slot that there is. -/
theorem pushBack_room (exact : arithmetic.Exact) (follows : words.Follows ring)
    (room : ring.isFull = false) (value : α)
    : ∃ after,
        words.pushBack arithmetic value = .ok (.ok after)
        ∧ after.Follows (ring.pushed value) := by
  obtain ⟨next, steps, same, behind⟩ := follows.isFull_iff exact
  have ahead : ¬ next = words.popIndex := by
    rw [behind, room]
    exact Bool.false_ne_true
  let after : Words α :=
    { words with slots := words.slots.insert words.pushIndex.toNat value, pushIndex := next }
  refine ⟨after, ?pushes, valid_pushed follows.valid room value, follows.slotCount, ?slots,
    same, follows.popIndex⟩
  case pushes =>
    rw [Words.pushBack, steps]
    refine (if_neg ahead).trans ?_
    rw [Words.write, if_pos follows.push_inBounds]
    rfl
  case slots => simp only [after, pushed, follows.pushIndex, follows.slots]

theorem popFront?_empty (follows : words.Follows ring) (empty : ring.isEmpty = true)
    : words.popFront? arithmetic = .ok none := by
  have same : words.popIndex = words.pushIndex := by
    rw [← follows.isEmpty, Words.isEmpty, beq_iff_eq] at empty
    exact empty.symm
  exact if_pos same

/-- A pop finds a value in a slot that there is. -/
theorem popFront?_some (exact : arithmetic.Exact) (follows : words.Follows ring)
    (some : ring.isEmpty = false)
    : ∃ value after,
        ring.popFront? = Option.some (value, ring.popped)
        ∧ words.popFront? arithmetic = .ok (Option.some (value, after))
        ∧ after.Follows ring.popped := by
  obtain ⟨value, pops, _⟩ := popFront?_eq follows.valid some
  obtain ⟨next, steps, same, _⟩ := follows.next exact follows.pop_lt
  rw [follows.popIndex] at same
  have apart : ¬ words.popIndex = words.pushIndex := by
    rw [← follows.isEmpty, Words.isEmpty, beq_eq_false_iff_ne] at some
    exact Ne.symm some
  have held : words.slots[words.popIndex.toNat]? = Option.some value := by
    rw [follows.slots, follows.popIndex]
    exact slot?_popIndex pops
  let after : Words α :=
    { words with slots := words.slots.erase words.popIndex.toNat, popIndex := next }
  refine ⟨value, after, pops, ?pops, valid_popped follows.valid some, follows.slotCount,
    ?slots, follows.pushIndex, same⟩
  case pops =>
    have reads : Words.read { words with popIndex := next } words.popIndex
        = .ok (value, after) := by
      rw [Words.read, if_pos follows.pop_inBounds, held]
    rw [Words.popFront?, if_neg apart, steps]
    simp only [bind, Except.bind, reads]
    rfl
  case slots => simp only [after, popped, follows.popIndex, follows.slots]

/-- Popping until there is nothing left, by induction on how often it is allowed. -/
theorem popAll (exact : arithmetic.Exact) (follows : words.Follows ring) (budget : Nat)
    : ∃ last,
        words.popAll arithmetic budget = .ok ((ring.popAll budget).1, last)
        ∧ last.Follows (ring.popAll budget).2 := by
  induction budget generalizing words ring with
  | zero => exact ⟨words, rfl, follows⟩
  | succ budget ih =>
    cases empty : ring.isEmpty with
    | true =>
      refine ⟨words, ?_, ?_⟩
      · rw [Words.popAll, follows.popFront?_empty empty, Ring.popAll,
          popFront?_of_empty empty]
        rfl
      · rwa [Ring.popAll, popFront?_of_empty empty]
    | false =>
      obtain ⟨value, after, pops, wordsPop, kept⟩ := follows.popFront?_some exact empty
      obtain ⟨last, rest, left⟩ := ih kept
      refine ⟨last, ?_, ?_⟩
      · rw [Words.popAll, wordsPop, Ring.popAll, pops]
        simp only [bind, Except.bind, rest]
        rfl
      · rwa [Ring.popAll, pops]

theorem drain (exact : arithmetic.Exact) (follows : words.Follows ring)
    : ∃ last,
        words.drain arithmetic = .ok (ring.drain.1, last) ∧ last.Follows ring.drain.2 := by
  obtain ⟨_, counts, _⟩ := follows.length exact
  obtain ⟨last, pops, left⟩ := follows.popAll exact ring.slotCount
  refine ⟨last, ?_, left⟩
  rw [Words.drain, counts, follows.slotCount]
  exact pops

/-- One command, by cases on what it is and on whether there is room, or anything to take. -/
theorem apply (exact : arithmetic.Exact) (follows : words.Follows ring) (command : Command α)
    : ∃ after,
        words.apply arithmetic command = .ok ((ring.apply command).1, after)
        ∧ after.Follows (ring.apply command).2 := by
  cases command with
  | push value =>
    cases full : ring.isFull with
    | true =>
      refine ⟨words, ?_, ?_⟩
      · rw [Words.apply, follows.pushBack_full exact full, Ring.apply, pushBack_of_full full]
        rfl
      · rwa [Ring.apply, pushBack_of_full full]
    | false =>
      obtain ⟨after, pushes, kept⟩ := follows.pushBack_room exact full value
      refine ⟨after, ?_, ?_⟩
      · rw [Words.apply, pushes, Ring.apply, pushBack_of_not_full full]
        rfl
      · rwa [Ring.apply, pushBack_of_not_full full]
  | pop =>
    cases empty : ring.isEmpty with
    | true =>
      refine ⟨words, ?_, ?_⟩
      · rw [Words.apply, follows.popFront?_empty empty, Ring.apply, popFront?_of_empty empty]
        rfl
      · rwa [Ring.apply, popFront?_of_empty empty]
    | false =>
      obtain ⟨value, after, pops, wordsPop, kept⟩ := follows.popFront?_some exact empty
      refine ⟨after, ?_, ?_⟩
      · rw [Words.apply, wordsPop, Ring.apply, pops]
        rfl
      · rwa [Ring.apply, pops]
  | drain =>
    obtain ⟨after, drains, kept⟩ := follows.drain exact
    refine ⟨after, ?_, kept⟩
    rw [Words.apply, drains]
    rfl

/-- Any commands, by induction on them. -/
theorem run (exact : arithmetic.Exact) (follows : words.Follows ring)
    (commands : List (Command α))
    : ∃ last,
        words.run arithmetic commands = .ok ((ring.run commands).1, last)
        ∧ last.Follows (ring.run commands).2 := by
  induction commands generalizing words ring with
  | nil => exact ⟨words, rfl, follows⟩
  | cons command rest ih =>
    obtain ⟨next, applies, kept⟩ := follows.apply exact command
    obtain ⟨last, later, left⟩ := ih kept
    refine ⟨last, ?_, left⟩
    rw [Words.run, applies]
    simp only [bind, Except.bind, later]
    rfl

end Words.Follows

/-- A ring of no more slots than there are words can be built. -/
theorem follows_withCapacity {arithmetic : Arithmetic} (exact : arithmetic.Exact)
    {capacity : UInt64} (fits : capacity.toNat + 1 < UInt64.size)
    : ∃ words : Words α,
        Words.withCapacity arithmetic capacity = .ok words
        ∧ words.Follows (empty capacity.toNat) := by
  obtain ⟨slotCount, adds, same⟩ := exact.add capacity 1 fits
  refine ⟨{ slotCount }, ?_, valid_empty _, same, rfl, rfl, rfl⟩
  rw [Words.withCapacity, adds]
  rfl

-----------------------------------------------------------------------------------------
-- After any commands
-----------------------------------------------------------------------------------------

/-- What words tell of the ring of numbers that they stand for. The indices, what lies behind
an index, the length and whether the ring is empty or full are those of the numbers; every
index names a slot, and the length is no more than the capacity.
-/
structure Words.Agrees (arithmetic : Arithmetic) (capacity : UInt64) (words : Words α)
    (ring : Ring α)
    : Prop where
  slots : words.slots = ring.slots
  slotCount : words.slotCount.toNat = capacity.toNat + 1
  pushIndex : words.pushIndex.toNat = ring.pushIndex ∧ words.pushIndex < words.slotCount
  popIndex : words.popIndex.toNat = ring.popIndex ∧ words.popIndex < words.slotCount
  next
    : ∀ index < words.slotCount,
        ∃ next,
          words.next arithmetic index = .ok next
          ∧ next.toNat = ring.next index.toNat
          ∧ next < words.slotCount
  isEmpty : words.isEmpty = ring.isEmpty
  isFull : words.isFull arithmetic = .ok ring.isFull
  length
    : ∃ count,
        words.length arithmetic = .ok count
        ∧ count.toNat = ring.length
        ∧ count ≤ capacity

theorem Words.Follows.agrees {arithmetic : Arithmetic} {words : Words α} {ring : Ring α}
    {capacity : UInt64} (exact : arithmetic.Exact) (follows : words.Follows ring)
    (same : ring.capacity = capacity.toNat)
    : words.Agrees arithmetic capacity ring := by
  refine ⟨follows.slots, follows.slotCount.trans (congrArg (· + 1) same),
    ⟨follows.pushIndex, follows.push_inBounds⟩, ⟨follows.popIndex, follows.pop_inBounds⟩,
    ?next, follows.isEmpty, follows.isFull exact, ?length⟩
  case next =>
    intro index within
    rw [UInt64.lt_iff_toNat_lt, follows.slotCount] at within
    exact follows.next exact within
  case length =>
    obtain ⟨count, counts, number⟩ := follows.length exact
    refine ⟨count, counts, number, ?_⟩
    rw [UInt64.le_iff_toNat_le, number, ← same]
    exact length_le_capacity follows.valid

/-- If the number of slots is a word, a ring can be built of words, and after any commands
they have had the same replies and tell the same as the numbers do. It makes no difference
whether results out of range are wrapped around or refused, since there are none.
-/
theorem words_agree (capacity : UInt64) (fits : capacity.toNat + 1 < UInt64.size)
    (commands : List (Command α))
    : ∀ arithmetic ∈ [Arithmetic.wrapping, Arithmetic.checked],
        ∃ start words : Words α,
          let (replies, ring) := (empty capacity.toNat : Ring α).run commands
          Words.withCapacity arithmetic capacity = .ok start
          ∧ start.run arithmetic commands = .ok (replies, words)
          ∧ words.Agrees arithmetic capacity ring := by
  intro arithmetic either
  have exact : arithmetic.Exact := by
    rcases List.mem_pair.mp either with rfl | rfl
    · exact exact_wrapping
    · exact exact_checked
  obtain ⟨start, builds, follows⟩ := follows_withCapacity exact fits
  obtain ⟨words, runs, kept⟩ := follows.run exact commands
  have same := ((holds_empty capacity.toNat).run commands).2.capacity
  exact ⟨start, words, builds, runs, kept.agrees exact same⟩

/-- The largest capacity of all, whose last slot is named by the last word but one. -/
theorem words_agree_largest
    : (18446744073709551614 : UInt64).toNat + 1 < UInt64.size
      ∧ ∃ start words : Words Nat,
        Words.withCapacity .checked 18446744073709551614 = .ok start
        ∧ start.run .checked [.push 1, .push 2, .pop, .pop, .pop]
          = .ok
              ([.pushed, .pushed, .popped (some 1), .popped (some 2), .popped none], words)
        ∧ words.Agrees .checked 18446744073709551614
            ((empty 18446744073709551614).run [.push 1, .push 2, .pop, .pop, .pop]).2 :=
  ⟨by decide, words_agree 18446744073709551614 (by decide) _ .checked
    (List.mem_cons_of_mem _ (List.mem_singleton_self _))⟩

end Conduit.Ring
