import Conduit.Proofs.Queue.Families
import Mathlib.Data.ENat.Lattice

/-! A queue with first elements, and the same queue filled by pushes.
The elements come from a sequence that may have no end. It is read one element past the
capacity at most, which is where the loop sees that the ring is full; so the loop ends, and
there is either no queue at all or one that holds the whole sequence.
-/

namespace Conduit

variable {α : Type}

-----------------------------------------------------------------------------------------
-- Sequences of elements
-----------------------------------------------------------------------------------------

namespace Items

/-- The first index without an element, if there is any. -/
noncomputable def length (items : Items α) : ℕ∞ :=
  ⨅ (index : Nat) (_ : items index = none), (index : ℕ∞)

/-- From an index on, these elements come first. -/
def Yields (items : Items α) : (index : Nat) → List α → Prop
  | _, [] => True
  | index, value :: rest => items index = some value ∧ items.Yields (index + 1) rest

/-- The sequence is this list. -/
def IsList (items : Items α) (values : List α) : Prop :=
  items.Yields 0 values ∧ items values.length = none

section
variable {items : Items α} {index : Nat} {values : List α}

/-- The sequence does not end before them. -/
theorem Yields.le_of_none (yields : items.Yields index values) {offset : Nat}
    (none : items (index + offset) = none)
    : values.length ≤ offset := by
  induction values generalizing index offset with
  | nil => exact Nat.zero_le offset
  | cons value rest ih =>
    obtain ⟨here, later⟩ := yields
    cases offset with
    | zero => cases here.symm.trans none
    | succ offset =>
      have shift : index + (offset + 1) = index + 1 + offset := by omega
      rw [shift] at none
      exact Nat.succ_le_succ (ih later none)

theorem IsList.length_eq (list : items.IsList values)
    : items.length = values.length := by
  refine le_antisymm (iInf₂_le values.length list.2) (le_iInf₂ fun index none => ?_)
  rw [← Nat.zero_add index] at none
  exact Nat.cast_le.mpr (list.1.le_of_none none)

/-- One more element after those that come first makes the sequence longer than they are. -/
theorem Yields.lt_length (yields : items.Yields 0 values) {value : α}
    (more : items values.length = some value)
    : (values.length : ℕ∞) < items.length := by
  have longer : ((values.length + 1 : Nat) : ℕ∞) ≤ items.length := by
    refine le_iInf₂ fun index none => Nat.cast_le.mpr ?_
    have within := yields.le_of_none ((congrArg items (Nat.zero_add index)).trans none)
    refine Nat.lt_of_le_of_ne within fun same => ?_
    rw [← same, more] at none
    cases none
  exact lt_of_lt_of_le (Nat.cast_lt.mpr (Nat.lt_succ_self _)) longer

/-- The first elements of a sequence, up to any number of them; by induction on the number. -/
theorem yields_firsts (items : Items α) (index count : Nat)
    : ∃ values,
        items.Yields index values
        ∧ values.length ≤ count
        ∧ (items (index + values.length) = none ∨ values.length = count) := by
  induction count generalizing index with
  | zero => exact ⟨[], trivial, Nat.le_refl 0, Or.inr rfl⟩
  | succ count ih =>
    cases here : items index with
    | none => exact ⟨[], trivial, Nat.zero_le _, Or.inl here⟩
    | some value =>
      obtain ⟨rest, yields, few, ends⟩ := ih (index + 1)
      refine ⟨value :: rest, ⟨here, yields⟩, Nat.succ_le_succ few, ?_⟩
      have shift : index + (rest.length + 1) = index + 1 + rest.length := by omega
      rw [List.length_cons, shift]
      exact ends.imp_right (congrArg (· + 1))

/-- A sequence that is given as a list is that list. -/
theorem isList_ofList (values : List α)
    : (ofList values).IsList values := by
  have item : ∀ index, ofList values index = values[index]? := fun index => by simp [ofList]
  have from_index
      : ∀ {rest : List α} {index : Nat},
          values.drop index = rest → (ofList values).Yields index rest := by
    intro rest
    induction rest with
    | nil => exact fun _ => trivial
    | cons value rest ih =>
      intro index left
      refine ⟨?_, ih ?_⟩
      · rw [item, ← List.head?_drop, left, List.head?_cons]
      · rw [← List.tail_drop, left, List.tail_cons]
  exact ⟨from_index rfl, by rw [item, List.getElem?_eq_none (Nat.le_refl _)]⟩

end

end Items

-----------------------------------------------------------------------------------------
-- The loop that fills a ring
-----------------------------------------------------------------------------------------

namespace Ring

/-- The loop that appends the elements of a sequence to a ring, from an index on and with no
bound on its rounds: the ring that it ends with, or none if it has an element in hand when the
ring is full, and the number of elements that it has taken.
-/
inductive Loads (items : Items α) : Ring α → Nat → Option (Ring α) × Nat → Prop
  | ends {ring index} (none : items index = none)
    : Loads items ring index (some ring, index)
  | overflows {ring index value} (some : items index = some value)
    (refused : ring.pushBack value = .error value)
    : Loads items ring index (none, index + 1)
  | appends {ring index value longer outcome} (some : items index = some value)
    (stored : ring.pushBack value = .ok longer)
    (later : Loads items longer (index + 1) outcome)
    : Loads items ring index outcome

/-- The ring after pushes that all succeed. -/
def pushedAll (ring : Ring α) (values : List α) : Ring α := values.foldl pushed ring

section
variable {items : Items α} {ring : Ring α} {index : Nat}

/-- The loop has one outcome at most, by induction on its rounds. -/
theorem Loads.unique {left right : Option (Ring α) × Nat}
    (first : Loads items ring index left) (second : Loads items ring index right)
    : left = right := by
  induction first with
  | ends none =>
    cases second with
    | ends => rfl
    | overflows some | appends some => cases none.symm.trans some
  | overflows some refused =>
    cases second with
    | ends none => cases none.symm.trans some
    | overflows => rfl
    | appends other stored =>
      obtain rfl := Option.some.inj (some.symm.trans other)
      cases refused.symm.trans stored
  | appends some stored _ ih =>
    cases second with
    | ends none => cases none.symm.trans some
    | overflows other refused =>
      obtain rfl := Option.some.inj (some.symm.trans other)
      cases refused.symm.trans stored
    | appends other again later =>
      obtain rfl := Option.some.inj (some.symm.trans other)
      obtain rfl := Except.ok.inj (stored.symm.trans again)
      exact ih later

/-- The rounds that loading allows itself are enough for the loop to end by itself. -/
theorem load_loads (items : Items α) (valid : ring.Valid) (index : Nat) {budget : Nat}
    (within : ring.length + budget = ring.capacity + 1)
    : Loads items ring index (ring.load items index budget) := by
  induction budget generalizing ring index with
  | zero =>
    have bounded := length_le_capacity valid
    omega
  | succ budget ih =>
    rw [load]
    cases here : items index with
    | none => exact .ends here
    | some value =>
      cases full : ring.isFull with
      | true =>
        have refused := pushBack_of_full full value
        simp only [refused]
        exact .overflows here refused
      | false =>
        have stored := pushBack_of_not_full full value
        have longer := length_pushed valid full value
        have left
            : (ring.pushed value).length + budget = (ring.pushed value).capacity + 1 := by
          change _ = ring.capacity + 1
          omega
        simp only [stored]
        exact .appends here stored (ih (valid_pushed valid full value) (index + 1) left)

/-- With room for so many and one more, a push succeeds and leaves room for so many. -/
theorem room_of_pushed (valid : ring.Valid) (value : α) {more : Nat}
    (room : ring.length + (more + 1) ≤ ring.capacity)
    : ring.isFull = false
      ∧ (ring.pushed value).length + more ≤ (ring.pushed value).capacity := by
  have notFull : ring.isFull = false := by
    rw [Bool.eq_false_iff]
    intro full
    have size := (isFull_iff valid).mp full
    omega
  have longer := length_pushed valid notFull value
  refine ⟨notFull, ?_⟩
  change _ ≤ ring.capacity
  omega

/-- With room for all of them, pushes append their values; by induction on the values. -/
theorem pushedAll_eq (valid : ring.Valid) {values : List α}
    (room : ring.length + values.length ≤ ring.capacity)
    : (ring.pushedAll values).Valid
      ∧ (ring.pushedAll values).capacity = ring.capacity
      ∧ (ring.pushedAll values).popIndex = ring.popIndex
      ∧ (ring.pushedAll values).length = ring.length + values.length
      ∧ (ring.pushedAll values).toList = ring.toList ++ values := by
  induction values generalizing ring with
  | nil => exact ⟨valid, rfl, rfl, rfl, (List.append_nil _).symm⟩
  | cons value rest ih =>
    obtain ⟨notFull, left⟩ := room_of_pushed valid value room
    obtain ⟨valid', same, pop, long, list⟩ := ih (valid_pushed valid notFull value) left
    refine ⟨valid', same, pop, ?_, ?_⟩
    · refine long.trans ?_
      rw [length_pushed valid notFull value, List.length_cons]
      omega
    · refine list.trans ?_
      rw [toList_pushed valid notFull, List.append_assoc]
      rfl

/-- As long as there is room, the loop pushes what comes first. -/
theorem Loads.of_yields (valid : ring.Valid) {values : List α}
    (room : ring.length + values.length ≤ ring.capacity) (yields : items.Yields index values)
    {outcome : Option (Ring α) × Nat}
    (later : Loads items (ring.pushedAll values) (index + values.length) outcome)
    : Loads items ring index outcome := by
  induction values generalizing ring index with
  | nil => exact later
  | cons value rest ih =>
    obtain ⟨here, yields⟩ := yields
    obtain ⟨notFull, left⟩ := room_of_pushed valid value room
    have shift : index + (rest.length + 1) = index + 1 + rest.length := by omega
    rw [List.length_cons, shift] at later
    exact .appends here (pushBack_of_not_full notFull value)
      (ih (valid_pushed valid notFull value) left yields later)

end

section
variable {items : Items α} {capacity : Nat} {values : List α}

/-- So the loop ends from an empty ring on. -/
theorem loads_load (items : Items α) (capacity : Nat)
    : Loads items (.empty capacity) 0 ((empty capacity).load items 0 (capacity + 1)) :=
  load_loads items (valid_empty capacity) 0 (Nat.zero_add _)

theorem room_of_empty (fits : values.length ≤ capacity)
    : (empty capacity : Ring α).length + values.length
      ≤ (empty capacity : Ring α).capacity := by
  simpa [empty, length] using fits

/-- Into an empty ring, the loop loads a list that is not too long. -/
theorem loads_of_isList (list : items.IsList values) (fits : values.length ≤ capacity)
    : Loads items (.empty capacity) 0
        (some ((empty capacity).pushedAll values), values.length) := by
  refine .of_yields (valid_empty capacity) (room_of_empty fits) list.1 ?_
  rw [Nat.zero_add]
  exact .ends list.2

/-- Of a sequence that is too long, it takes one element more than there is room for. -/
theorem loads_of_more (yields : items.Yields 0 values) {value : α}
    (more : items values.length = some value)
    : Loads items (.empty values.length) 0 (none, values.length + 1) := by
  have room := room_of_empty (Nat.le_refl values.length)
  obtain ⟨valid, same, _, long, _⟩ := pushedAll_eq (valid_empty values.length) room
  have full : ((empty values.length).pushedAll values).isFull = true := by
    rw [isFull_iff valid, same, long]
    exact Nat.zero_add _
  refine .of_yields (valid_empty values.length) room yields ?_
  rw [Nat.zero_add]
  exact .overflows more (pushBack_of_full full value)

end

end Ring

-----------------------------------------------------------------------------------------
-- Filling a queue by pushes
-----------------------------------------------------------------------------------------

namespace Queue

/-- One thread after the other pushes a value without waiting for space, and each of the
pushes succeeds in silence.
-/
def tryPushes (q : Queue α) : List (Visitor × α) → Option (Queue α)
  | [] => some q
  | (visitor, value) :: rest =>
    match q.visit visitor (.tryPush value) with
    | some { queue, events := [], answer := some (.push (.ok ())) } => queue.tryPushes rest
    | _ => none

section
variable {config : Config} {ring : Ring α} {clock : Clock} {threads : Nat}

/-- At an open queue that nobody waits at, a push with room leaves the value behind and
nothing else.
-/
theorem visit_tryPush (notFull : ring.isFull = false) {visitor : Visitor} (value : α)
    (present : visitor.thread < threads)
    : ((ofRing config ring).withThreads clock threads).visit visitor (.tryPush value)
      = some
          { queue := (ofRing config (ring.pushed value)).withThreads clock threads
            answer := some (.push (.ok ())) } := by
  have work
      : ((ofRing config ring).withThreads clock threads).firstWork visitor (.tryPush value)
        = { state := .ofRing (ring.pushed value), result := .answered (.push (.ok ())) } := by
    rw [firstWork, work_eq]
    change prepared _ (((Guarded.ofRing ring).offer value).map _) = _
    simp only [Guarded.offer, Guarded.ofRing, Guarded.pushBack,
      Ring.pushBack_of_not_full notFull]
    rfl
  have idle
      : ((ofRing config ring).withThreads clock threads).phase? visitor.thread = some .idle :=
    List.getElem?_replicate_of_lt present
  rw [visit_of_answered rfl idle rfl (congrArg Section.result work), work]
  simp only [leftBy, withThreads, List.foldl_nil, List.set_replicate_self]
  rfl

/-- Pushes fill the ring in their order, by induction on them. -/
theorem tryPushes_eq (valid : ring.Valid) {visitors : List (Visitor × α)}
    (room : ring.length + visitors.length ≤ ring.capacity)
    (present : ∀ pair ∈ visitors, pair.1.thread < threads)
    : ((ofRing config ring).withThreads clock threads).tryPushes visitors
      = some
          ((ofRing config (ring.pushedAll (visitors.map Prod.snd))).withThreads clock
            threads) := by
  induction visitors generalizing ring with
  | nil => rfl
  | cons pair rest ih =>
    obtain ⟨visitor, value⟩ := pair
    obtain ⟨notFull, left⟩ := Ring.room_of_pushed valid value room
    have here := present (visitor, value) List.mem_cons_self
    rw [tryPushes, visit_tryPush notFull value here]
    exact ih (Ring.valid_pushed valid notFull value) left
      fun pair member => present pair (List.mem_cons_of_mem _ member)

end

-----------------------------------------------------------------------------------------
-- Creating a queue with first elements
-----------------------------------------------------------------------------------------

/-- What comes of a loop that has filled the ring of a queue to be. -/
def creationOf (config : Config) : Option (Ring α) × Nat → Creation α
  | (none, pulled) =>
    { result := .error (.config (.tooManyElements config.capacity)), pulled }
  | (some ring, pulled) =>
    { result := .ok (ofRing config ring)
      events := [.created config.capacity config.label ring.length]
      pulled }

/-- A queue that holds these elements and that nothing has happened to: pushes of the
elements, one after the other, lead from the empty queue to this one as a whole.
-/
structure Preloaded (fresh : Queue α) (config : Config) (values : List α) : Prop where
  settings : fresh.config = config
  elements : fresh.state.ring.toList = values
  indices
    : fresh.state.ring.capacity = config.capacity
      ∧ fresh.state.ring.popIndex = 0
      ∧ fresh.state.ring.pushIndex = values.length
  isOpen : fresh.state.closed = false
  producers : fresh.state.producers = { waiting := 0, notified := 0 }
  consumers : fresh.state.consumers = { waiting := 0, notified := 0 }
  untouched : fresh.poisoned = false ∧ fresh.holder = none ∧ fresh.phases = []
  pushed
    : ∀ {clock : Clock} {threads : Nat} {visitors : List (Visitor × α)},
        visitors.map Prod.snd = values
        → (∀ pair ∈ visitors, pair.1.thread < threads)
        → ((ofRing config (.empty config.capacity)).withThreads clock threads).tryPushes visitors
          = some (fresh.withThreads clock threads)

theorem Preloaded.of_pushedAll {config : Config} {values : List α}
    (fits : values.length ≤ config.capacity)
    : (ofRing config ((Ring.empty config.capacity).pushedAll values)).Preloaded config
        values := by
  have empty : (Ring.empty config.capacity : Ring α).Valid := Ring.valid_empty config.capacity
  have room := Ring.room_of_empty fits
  obtain ⟨valid, same, pop, long, list⟩ := Ring.pushedAll_eq empty room
  refine ⟨rfl, ?_, ⟨same, pop, ?_⟩, rfl, rfl, rfl, ⟨rfl, rfl, rfl⟩, ?_⟩
  · exact list.trans (by rw [Ring.toList_empty, List.nil_append])
  · -- Nothing has been popped, so that the length is where the next push goes.
    have first : ((Ring.empty config.capacity).pushedAll values).popIndex = 0 := pop
    have count : ((Ring.empty config.capacity).pushedAll values).length = values.length :=
      long.trans (Nat.zero_add _)
    rw [Ring.length, first, if_pos (Nat.zero_le _)] at count
    exact count
  · intro clock threads visitors same present
    subst same
    rw [List.length_map] at fits
    exact tryPushes_eq empty (by simpa using room) present

section
variable {slotBytes : Nat} {config : Config} {items : Items α}

/-- A queue with room for one element is made of what the loop ends with. -/
theorem ofConfigAndItems_eq (positive : 0 < config.capacity)
    (fits : (config.capacity + 1) * slotBytes ≤ Ring.largestBlock)
    {outcome : Option (Ring α) × Nat}
    (loads : Ring.Loads items (.empty config.capacity) 0 outcome)
    : ofConfigAndItems slotBytes config items = creationOf config outcome := by
  have accepted : config.validate = .ok () := if_neg (Nat.pos_iff_ne_zero.mp positive)
  have allocated
      : Ring.allocate? slotBytes config.capacity
        = some (Ring.empty config.capacity : Ring α) :=
    if_pos fits
  have same := loads.unique (Ring.loads_load items config.capacity)
  obtain ⟨filled, pulled⟩ := outcome
  cases filled <;> simp only [ofConfigAndItems, accepted, allocated, ← same, creationOf]

/-- How a queue with the first elements `items` is created. Without room for one element it
is not, and nothing is asked of the sequence. Otherwise the loop that takes the elements
ends by itself; it takes one more than fit, if there are so many, and then there is no
queue, or it has taken the whole sequence and the queue holds it.
-/
structure CreatesWhole (slotBytes : Nat) (config : Config) (items : Items α) : Prop where
  noRoom
    : config.capacity = 0
      → ofConfigAndItems slotBytes config items = { result := .error (.config .zeroCapacity) }
  ends
    : 0 < config.capacity
      → ∃! outcome,
        Ring.Loads items (.empty config.capacity) 0 outcome
        ∧ ofConfigAndItems slotBytes config items = creationOf config outcome
  pulled
    : 0 < config.capacity
      → ((ofConfigAndItems slotBytes config items).pulled : ℕ∞)
        = min items.length (config.capacity + 1)
  overflows
    : 0 < config.capacity
      → ((ofConfigAndItems slotBytes config items).result
            = .error (.config (.tooManyElements config.capacity))
          ↔ config.capacity < items.length)
  nothing
    : 0 < config.capacity
      → config.capacity < items.length
      → ofConfigAndItems slotBytes config items
        = { result := .error (.config (.tooManyElements config.capacity))
            pulled := config.capacity + 1 }
  whole
    : 0 < config.capacity
      → items.length ≤ config.capacity
      → ∃ values fresh,
        items.IsList values
        ∧ ofConfigAndItems slotBytes config items
          = { result := .ok fresh
              events := [.created config.capacity config.label values.length]
              pulled := values.length }
        ∧ fresh.Preloaded config values
  blank
    : 0 < config.capacity
      → (ofConfig slotBytes config : Creation α).result
        = .ok (ofRing config (.empty config.capacity))

/-- The other ways to create a queue are this one, with the settings and elements that they
name.
-/
structure CreatedAlike (slotBytes capacity : Nat) (config : Config) (label : String)
    (items : Items α)
    : Prop where
  ofCapacity
    : (ofCapacity slotBytes capacity : Creation α)
      = ofConfigAndItems slotBytes { capacity, label := none } .empty
  labelled
    : (labelled slotBytes capacity label : Creation α)
      = ofConfigAndItems slotBytes { capacity, label := some label } .empty
  ofConfig
    : (ofConfig slotBytes config : Creation α) = ofConfigAndItems slotBytes config .empty
  ofItems
    : ofItems slotBytes capacity items
      = ofConfigAndItems slotBytes { capacity, label := none } items
  labelledOfItems
    : labelledOfItems slotBytes capacity items label
      = ofConfigAndItems slotBytes { capacity, label := some label } items

/-- The first elements fit and are loaded, or there is one more than fits. -/
theorem creation_cases (positive : 0 < config.capacity)
    (fits : (config.capacity + 1) * slotBytes ≤ Ring.largestBlock) (items : Items α)
    : (∃ values fresh,
        items.IsList values
        ∧ values.length ≤ config.capacity
        ∧ ofConfigAndItems slotBytes config items
          = { result := .ok fresh
              events := [.created config.capacity config.label values.length]
              pulled := values.length }
        ∧ fresh.Preloaded config values)
      ∨ (config.capacity < items.length
        ∧ ofConfigAndItems slotBytes config items
          = { result := .error (.config (.tooManyElements config.capacity))
              pulled := config.capacity + 1 }) := by
  obtain ⟨values, yields, few, ends⟩ := items.yields_firsts 0 config.capacity
  rw [Nat.zero_add] at ends
  cases last : items values.length with
  | none =>
    have list : items.IsList values := ⟨yields, last⟩
    obtain ⟨_, _, _, long, _⟩ :=
      Ring.pushedAll_eq (Ring.valid_empty config.capacity) (Ring.room_of_empty few)
    have count : ((Ring.empty config.capacity).pushedAll values).length = values.length :=
      long.trans (Nat.zero_add _)
    refine Or.inl ⟨values, _, list, few, ?_, .of_pushedAll few⟩
    rw [ofConfigAndItems_eq positive fits (Ring.loads_of_isList list few), creationOf, count]
  | some value =>
    have full : values.length = config.capacity := by
      rcases ends with none | full
      · cases none.symm.trans last
      · exact full
    have loads := Ring.loads_of_more yields last
    have longer := yields.lt_length last
    rw [full] at loads longer
    exact Or.inr ⟨longer, ofConfigAndItems_eq positive fits loads⟩

/-- For all settings and every sequence of elements, a queue is created with all of them, as
by pushing them, or not at all; witness: the loop ends after the last element or with the
first that finds the ring full.
-/
theorem creation_isWhole (slotBytes : Nat) (config : Config) (items : Items α)
    (fits
      : 0 < config.capacity → (config.capacity + 1) * slotBytes ≤ Ring.largestBlock)
    : CreatesWhole slotBytes config items
      ∧ ∀ capacity label, CreatedAlike slotBytes capacity config label items := by
  refine ⟨?_, fun capacity label => ⟨rfl, rfl, rfl, rfl, rfl⟩⟩
  refine ⟨?noRoom, ?ends, ?pulled, ?overflows, ?nothing, ?whole, ?blank⟩
  case noRoom =>
    intro zero
    simp only [ofConfigAndItems, Config.validate, if_pos zero]
  case ends =>
    intro positive
    have loads := Ring.loads_load items config.capacity
    exact ⟨_, ⟨loads, ofConfigAndItems_eq positive (fits positive) loads⟩,
      fun other ends => ends.1.unique loads⟩
  case blank =>
    intro positive
    exact created_empty positive (fits positive)
  case pulled =>
    intro positive
    rcases creation_cases positive (fits positive) items
      with ⟨values, _, list, few, creation, _⟩ | ⟨longer, creation⟩
    · have within : (values.length : ℕ∞) ≤ config.capacity + 1 := by
        exact_mod_cast Nat.le_succ_of_le few
      rw [creation, list.length_eq, min_eq_left within]
    · rw [creation, min_eq_right (Order.add_one_le_of_lt longer)]
      rfl
  case overflows =>
    intro positive
    rcases creation_cases positive (fits positive) items
      with ⟨values, _, list, few, creation, _⟩ | ⟨longer, creation⟩
    · rw [creation, list.length_eq, Nat.cast_lt]
      exact iff_of_false (fun same => by cases same) (Nat.not_lt.mpr few)
    · rw [creation]
      exact iff_of_true rfl longer
  case nothing =>
    intro positive longer
    rcases creation_cases positive (fits positive) items
      with ⟨values, _, list, few, _⟩ | ⟨_, creation⟩
    · rw [list.length_eq, Nat.cast_lt] at longer
      omega
    · exact creation
  case whole =>
    intro positive short
    rcases creation_cases positive (fits positive) items
      with ⟨values, fresh, list, _, creation, preloaded⟩ | ⟨longer, _⟩
    · exact ⟨values, fresh, list, creation, preloaded⟩
    · exact absurd longer (not_lt_of_ge short)

end

/-- A list of two fills a queue of two, and of a sequence without end three elements are
taken.
-/
theorem creation_isWhole_endless
    : let list : Items Nat := .ofList [1, 2]
      let endless : Items Nat := some
      list.length = 2
      ∧ endless.length = ⊤
      ∧ (ofConfigAndItems 8 (.ofCapacity 2) list).events = [.created 2 none 2]
      ∧ (ofConfigAndItems 8 (.ofCapacity 2) endless).result
        = .error (.config (.tooManyElements 2))
      ∧ (ofConfigAndItems 8 (.ofCapacity 2) endless).pulled = 3
      ∧ CreatesWhole 8 (.ofCapacity 2) list
      ∧ CreatesWhole 8 (.ofCapacity 2) endless := by
  have fits
      : 0 < (Config.ofCapacity 2).capacity
        → ((Config.ofCapacity 2).capacity + 1) * 8 ≤ Ring.largestBlock := by decide
  refine ⟨(Items.isList_ofList [1, 2]).length_eq, ?_, rfl, rfl, rfl, ?_, ?_⟩
  · simp [Items.length]
  · exact (creation_isWhole 8 (.ofCapacity 2) (.ofList [1, 2]) fits).1
  · exact (creation_isWhole 8 (.ofCapacity 2) some fits).1

end Queue

end Conduit
