import Conduit.Json.Skip
import Conduit.Json.Value
import Conduit.Proofs.Json.Tokens

/-! JSON values by the grammar of the language, and that a reader which looks at none of them
skips each one to its end.
Skipping has a budget. A value of so many characters needs twice as much at most, since
every element and every member has at least a character of its own besides its value.
-/

namespace Conduit.Json

-----------------------------------------------------------------------------------------
-- Items between commas
-----------------------------------------------------------------------------------------

/-- Items with a comma between any two of them, and blanks around each. -/
inductive Joined : List (List Char) → List Char → Prop
  | none {gap : List Char} (blanks : Blanks gap) : Joined [] gap
  | one {item left right : List Char} (before : Blanks left) (behind : Blanks right)
    : Joined [item] (left ++ item ++ right)
  | more {item next left right text : List Char} {items : List (List Char)}
    (before : Blanks left) (behind : Blanks right) (others : Joined (next :: items) text)
    : Joined (item :: next :: items) (left ++ item ++ right ++ ',' :: text)

-----------------------------------------------------------------------------------------
-- Values
-----------------------------------------------------------------------------------------

/-- A member of an object as it is written: a key in quotes, a colon between blanks, and a
value.
-/
structure Entry where
  key : List Char
  before : List Char
  after : List Char
  value : List Char

def Entry.text (entry : Entry) : List Char :=
  entry.key ++ (entry.before ++ ':' :: (entry.after ++ entry.value))

/-- The key is a string, and the colon stands between blanks. -/
structure Entry.IsFormed (entry : Entry) : Prop where
  key : IsString entry.key
  before : Blanks entry.before
  after : Blanks entry.after

/-- Values: literals, numbers, strings, and arrays and objects of any depth. -/
inductive IsValue : List Char → Prop
  | literal {text : List Char}
    (known : text ∈ [['n', 'u', 'l', 'l'], ['t', 'r', 'u', 'e'], ['f', 'a', 'l', 's', 'e']])
    : IsValue text
  | number {text : List Char} (number : IsNumber text) : IsValue text
  | string {text : List Char} (string : IsString text) : IsValue text
  | array {items : List (List Char)} {text : List Char}
    (values : ∀ item ∈ items, IsValue item) (joined : Joined items text)
    : IsValue ('[' :: text ++ [']'])
  | object {entries : List Entry} {text : List Char}
    (formed : ∀ entry ∈ entries, entry.IsFormed)
    (values : ∀ entry ∈ entries, IsValue entry.value)
    (joined : Joined (entries.map Entry.text) text)
    : IsValue ('\x7b' :: text ++ ['\x7d'])

/-- Characters with which no value begins. -/
def notFirst : List Char := [' ', '\n', '\t', '\r', ',', ']', '\x7d']

/-- A number begins with its sign or a digit, so with no other character. -/
theorem IsNumber.first {text others : List Char} (number : IsNumber text)
    (apart : others.any (fun c => c == '-' || c.isDigit) = false)
    : ∃ c tail, text = c :: tail ∧ c ∉ others := by
  obtain ⟨signed, isWhole, _, _⟩ := number
  obtain ⟨d, tail, rfl, isDigit⟩ := isWhole.1.head
  simp only [List.mem_cons, List.not_mem_nil, or_false] at signed
  rcases signed with rfl | rfl
  · refine ⟨d, _, rfl, fun member => List.any_eq_false.mp apart d member ?_⟩
    rw [isDigit, Bool.or_true]
  · exact ⟨'-', _, rfl, fun member => List.any_eq_false.mp apart '-' member rfl⟩

/-- No value is empty, by cases on what begins it. -/
theorem IsValue.first {text : List Char} (value : IsValue text)
    : ∃ c tail, text = c :: tail ∧ c ∉ notFirst := by
  cases value with
  | literal known =>
    simp only [List.mem_cons, List.not_mem_nil, or_false] at known
    rcases known with rfl | rfl | rfl <;> exact ⟨_, _, rfl, by decide⟩
  | number number => exact number.first (by decide)
  | string string =>
    obtain ⟨body, _, rfl⟩ := string
    exact ⟨_, _, rfl, by decide⟩
  | array | object => exact ⟨_, _, rfl, by decide⟩

/-- Blanks end where a value begins. -/
theorem IsValue.dropBlanks {text : List Char} (value : IsValue text) (rest : List Char)
    : Json.dropBlanks (text ++ rest) = text ++ rest := by
  obtain ⟨c, tail, rfl, solid⟩ := value.first
  refine dropBlanks_cons ?_ _
  rw [Bool.eq_false_iff]
  intro blank
  simp only [isBlank, Bool.or_eq_true, beq_iff_eq] at blank
  simp only [notFirst, List.mem_cons] at solid
  tauto

theorem IsValue.length_pos {text : List Char} (value : IsValue text) : 0 < text.length := by
  obtain ⟨c, tail, rfl, _⟩ := value.first
  exact Nat.succ_pos _

-----------------------------------------------------------------------------------------
-- Skipping
-----------------------------------------------------------------------------------------

theorem skipValue?_blanks {gap : List Char} (blanks : Blanks gap) (budget : Nat)
    (cs : List Char)
    : skipValue? budget (gap ++ cs) = skipValue? budget cs := by
  cases budget with
  | zero => rfl
  | succ budget => rw [skipValue?, skipValue?, dropBlanks_append blanks]

theorem skipElements?_dropBlanks (budget : Nat) (cs : List Char)
    : skipElements? budget (dropBlanks cs) = skipElements? budget cs := by
  have same : ∀ budget, skipValue? budget (dropBlanks cs) = skipValue? budget cs := by
    rintro (_ | budget)
    · rfl
    · rw [skipValue?, skipValue?, dropBlanks_idem]
  cases budget with
  | zero => rfl
  | succ budget => rw [skipElements?, skipElements?, same]

/-- A budget with which every value is skipped that is not too long for it. -/
def Skips (budget : Nat) : Prop :=
  ∀ text rest : List Char,
    IsValue text
    → 2 * text.length ≤ budget + 1
    → Ends rest
    → skipValue? budget (text ++ rest) = some rest

section
variable {budget : Nat} {item left right : List Char}

/-- A value is skipped together with the blanks around it. -/
theorem Skips.padded {after : List Char} (skips : Skips budget) (value : IsValue item)
    (enough : 2 * item.length ≤ budget + 1) (before : Blanks left) (behind : Blanks right)
    (ends : Ends after)
    : (skipValue? budget (left ++ item ++ right ++ after)).map dropBlanks
      = some (dropBlanks after) := by
  rw [List.append_assoc, List.append_assoc, skipValue?_blanks before,
    skips item _ value enough (behind.ends ends), Option.map_some, dropBlanks_append behind]

theorem Skips.lastElement (skips : Skips budget) (value : IsValue item)
    (enough : 2 * item.length ≤ budget + 1) (before : Blanks left) (behind : Blanks right)
    (rest : List Char)
    : skipElements? (budget + 1) (left ++ item ++ right ++ ']' :: rest) = some rest := by
  rw [skipElements?, skips.padded value enough before behind (ends_cons (by decide) rest)]
  rfl

theorem Skips.nextElement (skips : Skips budget) (value : IsValue item)
    (enough : 2 * item.length ≤ budget + 1) (before : Blanks left) (behind : Blanks right)
    (rest : List Char)
    : skipElements? (budget + 1) (left ++ item ++ right ++ ',' :: rest)
      = skipElements? budget rest := by
  rw [skipElements?, skips.padded value enough before behind (ends_cons (by decide) rest)]
  rfl

end

/-- Behind the blanks the first element begins, and no bracket stands there. -/
theorem Joined.first {item text : List Char} {items : List (List Char)}
    (joined : Joined (item :: items) text) (value : IsValue item) (rest : List Char)
    : ∃ c more, dropBlanks (text ++ rest) = c :: more ∧ c ∉ notFirst := by
  obtain ⟨c, tail, shape, inner⟩ := value.first
  cases joined with
  | one before _ | more before _ _ =>
    simp only [List.append_assoc]
    rw [dropBlanks_append before, value.dropBlanks, shape]
    exact ⟨c, _, rfl, inner⟩

/-- Elements are skipped up to the bracket behind them, by induction on them. -/
theorem skipElements?_joined {budget : Nat} (skips : ∀ less < budget, Skips less)
    {item text : List Char} {items : List (List Char)}
    (values : ∀ value ∈ item :: items, IsValue value) (joined : Joined (item :: items) text)
    (enough : 2 * text.length ≤ budget) (rest : List Char)
    : skipElements? budget (text ++ ']' :: rest) = some rest := by
  induction items generalizing budget item text with
  | nil =>
    have value := values item List.mem_cons_self
    have filled := value.length_pos
    cases joined with
    | one before behind =>
      simp only [List.length_append] at enough
      obtain ⟨budget, rfl⟩ := Nat.exists_eq_add_one.mpr (show 0 < budget by omega)
      exact (skips budget (Nat.lt_succ_self _)).lastElement value (by omega) before behind
        rest
  | cons next items ih =>
    obtain ⟨value, others⟩ := List.forall_mem_cons.mp values
    have filled := value.length_pos
    cases joined with
    | more before behind joined =>
      simp only [List.length_append, List.length_cons] at enough
      obtain ⟨budget, rfl⟩ := Nat.exists_eq_add_one.mpr (show 0 < budget by omega)
      rw [List.append_assoc, List.cons_append,
        (skips budget (Nat.lt_succ_self _)).nextElement value (by omega) before behind]
      exact ih (fun less below => skips less (by omega)) others joined (by omega)

/-- What stands behind the first quote of a member: its key and its colon are skipped. -/
def Entry.IsQuoted (entry : Entry) (quoted : List Char) : Prop :=
  ∀ rest, skipKey? (quoted ++ rest) = some (entry.after ++ entry.value ++ rest)

/-- A member begins with a quote. -/
theorem Entry.IsFormed.quoted {entry : Entry} (formed : entry.IsFormed)
    : ∃ quoted, entry.text = '"' :: quoted ∧ entry.IsQuoted quoted := by
  obtain ⟨body, pieces, key⟩ := formed.key
  refine ⟨body ++ '"' :: (entry.before ++ ':' :: (entry.after ++ entry.value)), ?_, ?_⟩
  · rw [Entry.text, key]
    simp only [List.cons_append, List.append_assoc, List.nil_append]
  · intro rest
    rw [skipKey?, List.append_assoc, List.cons_append, skipString?_pieces pieces,
      Option.map_some, List.append_assoc, dropBlanks_append formed.before]
    rfl

theorem Entry.value_lt (entry : Entry) : entry.value.length < entry.text.length := by
  simp only [Entry.text, List.length_append, List.length_cons]
  omega

section
variable {budget : Nat} {entry : Entry} {right quoted : List Char}

/-- A member is skipped together with the blanks behind it. -/
theorem Skips.member {after : List Char} (skips : Skips budget) (formed : entry.IsFormed)
    (value : IsValue entry.value) (enough : 2 * entry.value.length ≤ budget + 1)
    (skipsKey : entry.IsQuoted quoted) (behind : Blanks right) (ends : Ends after)
    : ((skipKey? (quoted ++ (right ++ after))).bind (skipValue? budget)).map dropBlanks
      = some (dropBlanks after) := by
  rw [skipsKey, Option.bind_some, ← List.append_assoc]
  exact skips.padded value enough formed.after behind ends

theorem Skips.lastMember (skips : Skips budget) (formed : entry.IsFormed)
    (value : IsValue entry.value) (enough : 2 * entry.value.length ≤ budget + 1)
    (skipsKey : entry.IsQuoted quoted) (behind : Blanks right) (rest : List Char)
    : skipMembers? (budget + 1) (quoted ++ (right ++ '\x7d' :: rest)) = some rest := by
  rw [skipMembers?,
    skips.member formed value enough skipsKey behind (ends_cons (by decide) rest)]
  rfl

theorem Skips.nextMember (skips : Skips budget) (formed : entry.IsFormed)
    (value : IsValue entry.value) (enough : 2 * entry.value.length ≤ budget + 1)
    (skipsKey : entry.IsQuoted quoted) (behind : Blanks right) {text next : List Char}
    (opens : dropBlanks text = '"' :: next)
    : skipMembers? (budget + 1) (quoted ++ (right ++ ',' :: text))
      = skipMembers? budget next := by
  rw [skipMembers?,
    skips.member formed value enough skipsKey behind (ends_cons (by decide) text),
    dropBlanks_cons (by decide)]
  simp only [opens]

end

/-- Members are skipped up to the brace behind them, by induction on them. -/
theorem skipMembers?_joined {budget : Nat} (skips : ∀ less < budget, Skips less)
    {entry : Entry} {entries : List Entry} {text : List Char}
    (formed : ∀ member ∈ entry :: entries, member.IsFormed)
    (values : ∀ member ∈ entry :: entries, IsValue member.value)
    (joined : Joined ((entry :: entries).map Entry.text) text)
    (enough : 2 * text.length ≤ budget) (rest : List Char)
    : ∃ quoted,
        dropBlanks (text ++ '\x7d' :: rest) = '"' :: quoted
        ∧ skipMembers? budget quoted = some rest := by
  induction entries generalizing budget entry text with
  | nil =>
    have form := formed entry List.mem_cons_self
    have value := values entry List.mem_cons_self
    have shorter := entry.value_lt
    obtain ⟨quoted, opens, skipsKey⟩ := form.quoted
    cases joined with
    | one before behind =>
      simp only [List.length_append] at enough
      obtain ⟨budget, rfl⟩ := Nat.exists_eq_add_one.mpr (show 0 < budget by omega)
      refine ⟨_, ?_, (skips budget (Nat.lt_succ_self _)).lastMember form value (by omega)
        skipsKey behind rest⟩
      rw [opens, List.append_assoc, List.append_assoc, dropBlanks_append before]
      rfl
  | cons next entries ih =>
    obtain ⟨form, othersFormed⟩ := List.forall_mem_cons.mp formed
    obtain ⟨value, others⟩ := List.forall_mem_cons.mp values
    have shorter := entry.value_lt
    obtain ⟨quoted, opens, skipsKey⟩ := form.quoted
    cases joined with
    | more before behind joined =>
      simp only [List.length_append, List.length_cons] at enough
      obtain ⟨budget, rfl⟩ := Nat.exists_eq_add_one.mpr (show 0 < budget by omega)
      obtain ⟨following, begins, skipped⟩ :=
        ih (fun less (below : less < budget) => skips less (by omega)) othersFormed others
          joined (by omega)
      refine ⟨_, ?_, ((skips budget (Nat.lt_succ_self _)).nextMember form value (by omega)
        skipsKey behind begins).trans skipped⟩
      rw [opens, List.append_assoc, List.append_assoc, List.append_assoc,
        dropBlanks_append before]
      rfl

/-- A number begins like no other value, so its text decides. -/
theorem skipValue?_number {text rest : List Char} (number : IsNumber text)
    (ends : Ends rest) (budget : Nat)
    : skipValue? (budget + 1) (text ++ rest) = some rest := by
  obtain ⟨parts, reads⟩ := numberText?_append number ends
  rw [skipValue?, (IsValue.number number).dropBlanks]
  have others : ['n', 't', 'f', '"', '[', '\x7b'].any (fun c => c == '-' || c.isDigit)
      = false := by
    decide
  obtain ⟨c, tail, rfl, apart⟩ := number.first others
  simp only [List.mem_cons, not_or] at apart
  rw [List.cons_append] at reads ⊢
  simp [apart, reads]

section
variable {budget : Nat} {text : List Char}

/-- An array is skipped as its elements are, by cases on whether there are any. -/
theorem skipValue?_array (skips : ∀ less < budget, Skips less) {items : List (List Char)}
    (values : ∀ item ∈ items, IsValue item) (joined : Joined items text)
    (enough : 2 * text.length ≤ budget) (rest : List Char)
    : skipValue? (budget + 1) ('[' :: (text ++ ']' :: rest)) = some rest := by
  rw [skipValue?, dropBlanks_cons (by decide)]
  cases items with
  | nil =>
    cases joined with
    | none blanks =>
      simp only [dropBlanks_append blanks]
      rfl
  | cons item items =>
    have skipped := skipElements?_joined skips values joined enough rest
    obtain ⟨c, more, begins, inner⟩ :=
      joined.first (values item List.mem_cons_self) (']' :: rest)
    have other : c ≠ ']' := by
      rintro rfl
      exact inner (by decide)
    rw [← skipElements?_dropBlanks, begins] at skipped
    simp only [begins]
    simp [other, skipped]

/-- An object is skipped as its members are, by cases on whether there are any. -/
theorem skipValue?_object (skips : ∀ less < budget, Skips less) {entries : List Entry}
    (formed : ∀ entry ∈ entries, entry.IsFormed)
    (values : ∀ entry ∈ entries, IsValue entry.value)
    (joined : Joined (entries.map Entry.text) text) (enough : 2 * text.length ≤ budget)
    (rest : List Char)
    : skipValue? (budget + 1) ('\x7b' :: (text ++ '\x7d' :: rest)) = some rest := by
  rw [skipValue?, dropBlanks_cons (by decide)]
  cases entries with
  | nil =>
    cases joined with
    | none blanks =>
      simp only [dropBlanks_append blanks]
      rfl
  | cons entry entries =>
    obtain ⟨quoted, begins, skipped⟩ :=
      skipMembers?_joined skips formed values joined enough rest
    simp only [begins, skipped]

end

/-- Every value is skipped with a budget of twice its length, by induction on the budget. -/
theorem skips_all (budget : Nat) : Skips budget := by
  induction budget using Nat.strong_induction_on with
  | _ budget skips =>
    intro text rest value enough ends
    have filled := value.length_pos
    obtain ⟨budget, rfl⟩ := Nat.exists_eq_add_one.mpr (show 0 < budget by omega)
    have skips : ∀ less < budget, Skips less := fun less below => skips less (by omega)
    cases value with
    | literal known =>
      simp only [List.mem_cons, List.not_mem_nil, or_false] at known
      rcases known with rfl | rfl | rfl
      · exact dropLiteral?_append ['u', 'l', 'l'] rest
      · exact dropLiteral?_append ['r', 'u', 'e'] rest
      · exact dropLiteral?_append ['a', 'l', 's', 'e'] rest
    | number number => exact skipValue?_number number ends budget
    | string string =>
      obtain ⟨body, pieces, rfl⟩ := string
      rw [List.append_assoc]
      exact skipString?_pieces pieces rest
    | array values joined =>
      simp only [List.length_append, List.length_cons, List.length_nil] at enough
      rw [List.append_assoc]
      exact skipValue?_array skips values joined (by omega) rest
    | object formed values joined =>
      simp only [List.length_append, List.length_cons, List.length_nil] at enough
      rw [List.append_assoc]
      exact skipValue?_object skips formed values joined (by omega) rest

/-- A value is skipped to its end, whatever it is made of. -/
theorem skip?_append {gap text rest : List Char} (blanks : Blanks gap) (value : IsValue text)
    (ends : Ends rest)
    : skip? (gap ++ text ++ rest) = some rest := by
  rw [skip?, List.append_assoc, skipValue?_blanks blanks]
  refine skips_all _ text rest value ?_ ends
  simp only [List.length_append]
  omega

-----------------------------------------------------------------------------------------
-- What is written is a value
-----------------------------------------------------------------------------------------

theorem isNumber_toDigits (n : Nat) : IsNumber (Nat.toDigits 10 n) := by
  have number : IsNumber ([] ++ Nat.toDigits 10 n ++ [] ++ []) :=
    .parts List.mem_cons_self (isWhole_toDigits n) .none .none
  simpa only [List.nil_append, List.append_nil] using number

/-- Integers are written in decimal digits, with a minus sign if they are negative. -/
theorem isNumber_toString (n : Int) : IsNumber (toString n).toList := by
  rw [Int.toString_eq_repr, Int.repr_eq_if]
  split
  · rw [Nat.toList_repr]
    exact isNumber_toDigits _
  · have number : IsNumber (['-'] ++ Nat.toDigits 10 (-n).toNat ++ [] ++ []) :=
      .parts (by decide) (isWhole_toDigits _) .none .none
    rw [List.append_nil, List.append_nil] at number
    rw [String.toList_append, Nat.toList_repr]
    exact number

/-- Without blanks, items are joined by commas alone. -/
theorem Joined.single (item : List Char) : Joined [item] item := by
  simpa only [List.nil_append, List.append_nil] using Joined.one .nil .nil

theorem Joined.cons {next text : List Char} {items : List (List Char)}
    (joined : Joined (next :: items) text) (item : List Char)
    : Joined (item :: next :: items) (item ++ ',' :: text) := by
  simpa only [List.nil_append, List.append_nil]
    using Joined.more .nil .nil joined

theorem joined_elementChars (elements : List Value)
    : Joined (elements.map Value.chars) (Value.elementChars elements) := by
  induction elements with
  | nil => exact .none .nil
  | cons first others ih =>
    cases others with
    | nil => exact .single _
    | cons next others => exact ih.cons _

/-- A member as it is written without blanks. -/
def compactEntry (member : String × Value) : Entry :=
  ⟨encodeString member.1, [], [], member.2.chars⟩

theorem isFormed_compactEntry (member : String × Value) : (compactEntry member).IsFormed :=
  ⟨(isStringOf_encodeString member.1).isString, .nil, .nil⟩

theorem joined_memberChars (members : List (String × Value))
    : Joined ((members.map compactEntry).map Entry.text) (Value.memberChars members) := by
  induction members with
  | nil => exact .none .nil
  | cons first others ih =>
    cases others with
    | nil => exact .single _
    | cons next others => exact ih.cons (compactEntry first).text

/-- Whatever is written for a value is one by the grammar, by cases on it. -/
theorem isValue_chars : (value : Value) → IsValue value.chars
  | .null => .literal (by decide)
  | .bool true => .literal (by decide)
  | .bool false => .literal (by decide)
  | .int n => .number (isNumber_toString n)
  | .str s => .string (isStringOf_encodeString s).isString
  | .arr elements => by
    refine .array (fun item member => ?_) (joined_elementChars elements)
    obtain ⟨value, inside, rfl⟩ := List.mem_map.mp member
    exact isValue_chars value
  | .obj members => by
    refine .object (fun entry member => ?_) (fun entry member => ?_)
      (joined_memberChars members)
    · obtain ⟨value, inside, rfl⟩ := List.mem_map.mp member
      exact isFormed_compactEntry value
    · obtain ⟨⟨key, value⟩, inside, rfl⟩ := List.mem_map.mp member
      exact isValue_chars value
termination_by value => sizeOf value
decreasing_by
  · have smaller := List.sizeOf_lt_of_mem inside
    simp only [Value.arr.sizeOf_spec]
    omega
  · have smaller := List.sizeOf_lt_of_mem inside
    simp only [Prod.mk.sizeOf_spec] at smaller
    simp only [Value.obj.sizeOf_spec]
    omega

end Conduit.Json
