import Conduit.Config.Reader
import Conduit.Proofs.Json.Values
import Mathlib.Data.List.Forall2

/-! Documents that describe settings, and what is read from them.
A document is an object that may have any members besides the two that are looked for, or
an array of the first of those. What is missing has its default, and nothing else makes a
difference.
-/

namespace Conduit.Config

open Json (Blanks Ends Entry IsStringOf IsValue Joined)

-----------------------------------------------------------------------------------------
-- What a document describes
-----------------------------------------------------------------------------------------

/-- What a member of an object, or an element of an array, says about the settings. -/
inductive Setting
  | capacity (n : Nat)
  | label (label : Option String)
  /-- Nothing, since nobody looks at it. -/
  | other
  deriving DecidableEq, Repr

namespace Setting

/-- The keys under which it stands. -/
def IsKey : Setting → String → Prop
  | capacity _, key => key = "capacity"
  | label _, key => key = "label"
  | other, key => key ≠ "capacity" ∧ key ≠ "label"

/-- The values that say it: decimal digits of a number of 64 bits, a string or null, or any
value.
-/
inductive IsWritten : Setting → List Char → Prop
  | capacity {n : Nat} (inRange : n < UInt64.size)
    : IsWritten (.capacity n) (Nat.toDigits 10 n)
  | noLabel : IsWritten (.label none) ['n', 'u', 'l', 'l']
  | label {s : String} {text : List Char} (spells : IsStringOf text s)
    : IsWritten (.label (some s)) text
  | other {text : List Char} (value : IsValue text) : IsWritten .other text

/-- The members that say it. The key may be spelled in any way. -/
structure IsMember (setting : Setting) (entry : Entry) : Prop where
  key : ∃ key, IsStringOf entry.key key ∧ setting.IsKey key
  before : Blanks entry.before
  after : Blanks entry.after
  value : setting.IsWritten entry.value

/-- Whether two of them may stand in one object: there is one capacity at most, and one
label.
-/
def Apart : Setting → Setting → Prop
  | capacity _, capacity _ => False
  | label _, label _ => False
  | _, _ => True

end Setting

/-- Documents, by what their members or elements say from first to last: objects with one
capacity and one label at most, in any order and among any others, and arrays of nothing, a
capacity, or a capacity and a label; with blanks between any two tokens.
-/
inductive Describes : List Setting → List Char → Prop
  | object {settings : List Setting} {entries : List Entry} {text left right : List Char}
    (apart : settings.Pairwise Setting.Apart)
    (members : List.Forall₂ Setting.IsMember settings entries)
    (joined : Joined (entries.map Entry.text) text) (before : Blanks left)
    (behind : Blanks right)
    : Describes settings (left ++ '\x7b' :: (text ++ '\x7d' :: right))
  | array {settings : List Setting} {capacity : Nat} {label : Option String}
    {elements : List (List Char)} {text left right : List Char}
    (first : settings <+: [.capacity capacity, .label label])
    (written : List.Forall₂ Setting.IsWritten settings elements)
    (joined : Joined elements text) (before : Blanks left) (behind : Blanks right)
    : Describes settings (left ++ '[' :: (text ++ ']' :: right))

-----------------------------------------------------------------------------------------
-- Values
-----------------------------------------------------------------------------------------

theorem Setting.IsWritten.isValue {setting : Setting} {text : List Char}
    (written : setting.IsWritten text)
    : IsValue text := by
  cases written with
  | capacity => exact .number (Json.isNumber_toDigits _)
  | noLabel => exact .literal (by decide)
  | label spells => exact .string spells.isString
  | other value => exact value

/-- A capacity is read up to its last digit. -/
theorem readCapacity_append {gap rest : List Char} (blanks : Blanks gap) {n : Nat}
    (inRange : n < UInt64.size) (ends : Ends rest)
    : readCapacity (gap ++ (Nat.toDigits 10 n ++ rest)) = .ok (n, rest) := by
  have value : IsValue (Nat.toDigits 10 n) := .number (Json.isNumber_toDigits n)
  obtain ⟨d, digits, shape, isDigit⟩ := (Json.isWhole_toDigits n).1.head
  have starts : startsNumber (Nat.toDigits 10 n ++ rest) = true := by
    rw [shape, List.cons_append, startsNumber, isDigit, Bool.or_true]
  rw [readCapacity, Json.dropBlanks_append blanks, value.dropBlanks, if_pos starts,
    Json.number?_toDigits inRange ends]

/-- A label is read up to its closing quote, or to the end of the literal for none. -/
theorem readLabel_append {gap text : List Char} (blanks : Blanks gap) {label : Option String}
    (written : Setting.IsWritten (.label label) text) (rest : List Char)
    : readLabel (gap ++ (text ++ rest)) = .ok (label, rest) := by
  rw [readLabel, Json.dropBlanks_append blanks, written.isValue.dropBlanks]
  cases written with
  | noLabel => rfl
  | label spells =>
    obtain ⟨body, spelled, rfl⟩ := spells
    simp only [List.cons_append, List.append_assoc, List.nil_append,
      Json.string?_spellsAll spelled, String.ofList_toList]

theorem readColon_append {gap : List Char} (blanks : Blanks gap) (rest : List Char)
    : readColon (gap ++ ':' :: rest) = .ok rest := by
  rw [readColon, Json.dropBlanks_append blanks]
  rfl

-----------------------------------------------------------------------------------------
-- Members
-----------------------------------------------------------------------------------------

/-- The members with one more of them. -/
def Members.add (members : Members) : Setting → Members
  | .capacity n => { members with capacity := some n }
  | .label label => { members with label := some label }
  | .other => members

/-- Whether one more may be added without being a second one. -/
def Members.Admits (members : Members) : Setting → Prop
  | .capacity _ => members.capacity = none
  | .label _ => members.label = none
  | .other => True

/-- Whatever stands apart from a member that has been added may still be added. -/
theorem Members.Admits.add {members : Members} {first later : Setting}
    (admits : members.Admits later) (apart : first.Apart later)
    : (members.add first).Admits later := by
  cases first <;> cases later <;> first | exact admits | exact apart.elim

/-- A member is read from its colon on, by cases on what it says. -/
theorem readMember_append {members : Members} {setting : Setting}
    (admits : members.Admits setting) {key : String} (isKey : setting.IsKey key)
    {before after value rest : List Char} (first : Blanks before) (second : Blanks after)
    (written : setting.IsWritten value) (ends : Ends rest)
    : readMember members key (before ++ ':' :: (after ++ (value ++ rest)))
      = .ok (members.add setting, rest) := by
  have colon := readColon_append first (after ++ (value ++ rest))
  cases setting with
  | capacity n =>
    cases written with
    | capacity inRange =>
      obtain rfl : key = "capacity" := isKey
      have admits : members.capacity = none := admits
      rw [readMember, if_pos rfl, admits, if_neg (by decide), colon]
      simp only [bind, Except.bind, readCapacity_append second inRange ends]
      rfl
  | label label =>
    obtain rfl : key = "label" := isKey
    have admits : members.label = none := admits
    rw [readMember, if_neg (by decide), if_pos rfl, admits, if_neg (by decide), colon]
    simp only [bind, Except.bind, readLabel_append second written rest]
    rfl
  | other =>
    rw [readMember, if_neg isKey.1, if_neg isKey.2, colon]
    have skipped := Json.skip?_append second written.isValue ends
    rw [List.append_assoc] at skipped
    simp only [bind, Except.bind, skipped]
    rfl

/-- What stands behind the first quote of a member: a key up to its closing quote, and a
value that is read by this key.
-/
def Setting.IsQuoted (setting : Setting) (quoted : List Char) : Prop :=
  ∀ {members : Members} {rest : List Char},
    members.Admits setting
    → Ends rest
    → ∃ key after,
        Json.string? (quoted ++ rest) = some (key, after)
        ∧ readMember members (String.ofList key) after = .ok (members.add setting, rest)

/-- A member begins with a quote. -/
theorem Setting.IsMember.quoted {setting : Setting} {entry : Entry}
    (member : setting.IsMember entry)
    : ∃ quoted, entry.text = '"' :: quoted ∧ setting.IsQuoted quoted := by
  obtain ⟨key, ⟨body, spelled, spells⟩, isKey⟩ := member.key
  refine ⟨body ++ '"' :: (entry.before ++ ':' :: (entry.after ++ entry.value)), ?_, ?_⟩
  · rw [Entry.text, spells]
    simp only [List.cons_append, List.append_assoc, List.nil_append]
  · intro members rest admits ends
    refine ⟨key.toList, entry.before ++ ':' :: (entry.after ++ (entry.value ++ rest)),
      ?_, ?_⟩
    · rw [List.append_assoc, List.cons_append, Json.string?_spellsAll spelled]
      simp only [List.cons_append, List.append_assoc]
    · rw [String.ofList_toList]
      exact readMember_append admits isKey member.before member.after member.value ends

section
variable {members : Members} {setting : Setting} {quoted right : List Char}

theorem readMembers_last (member : setting.IsQuoted quoted) (admits : members.Admits setting)
    (behind : Blanks right) (budget : Nat) (rest : List Char)
    : readMembers (budget + 1) members (quoted ++ (right ++ '\x7d' :: rest))
      = .ok (members.add setting, rest) := by
  have ends : Ends ('\x7d' :: rest) := Json.ends_cons (by decide) rest
  obtain ⟨key, after, hasKey, reads⟩ := member admits (behind.ends ends)
  simp only [readMembers, hasKey, reads, bind, Except.bind, Json.dropBlanks_append behind]
  rfl

theorem readMembers_next (member : setting.IsQuoted quoted) (admits : members.Admits setting)
    (behind : Blanks right) (budget : Nat) {text next : List Char}
    (opens : Json.dropBlanks text = '"' :: next)
    : readMembers (budget + 1) members (quoted ++ (right ++ ',' :: text))
      = readMembers budget (members.add setting) next := by
  have ends : Ends (',' :: text) := Json.ends_cons (by decide) text
  obtain ⟨key, after, hasKey, reads⟩ := member admits (behind.ends ends)
  simp only [readMembers, hasKey, reads, bind, Except.bind, Json.dropBlanks_append behind,
    Json.dropBlanks_cons (show Json.isBlank ',' = false by decide), opens]

end

/-- Members are read up to the brace behind them, by induction on them. What has been added
admits every later one, because no two of a kind are among them.
-/
theorem readMembers_joined {members : Members} {setting : Setting} {settings : List Setting}
    {entries : List Entry} {text : List Char}
    (admits : ∀ later ∈ setting :: settings, members.Admits later)
    (apart : (setting :: settings).Pairwise Setting.Apart)
    (written : List.Forall₂ Setting.IsMember (setting :: settings) entries)
    (joined : Joined (entries.map Entry.text) text) (rest : List Char)
    : ∃ quoted,
        Json.dropBlanks (text ++ '\x7d' :: rest) = '"' :: quoted
        ∧ settings.length < quoted.length
        ∧ ∀ budget,
          settings.length < budget
          → readMembers budget members quoted
            = .ok ((setting :: settings).foldl Members.add members, rest) := by
  induction settings generalizing members setting entries text with
  | nil =>
    obtain ⟨entry, _, member, others, rfl⟩ := List.forall₂_cons_left_iff.mp written
    obtain rfl := List.forall₂_nil_left_iff.mp others
    obtain ⟨quoted, opens, reads⟩ := member.quoted
    cases joined with
    | @one _ left right before behind =>
      refine ⟨quoted ++ (right ++ '\x7d' :: rest), ?_, ?_, ?_⟩
      · rw [opens, List.append_assoc, List.append_assoc, Json.dropBlanks_append before]
        rfl
      · simp only [List.length_append, List.length_cons, List.length_nil]
        omega
      · intro budget enough
        obtain ⟨budget, rfl⟩ := Nat.exists_eq_add_one.mpr enough
        exact readMembers_last reads (admits setting List.mem_cons_self) behind budget rest
  | cons next settings ih =>
    obtain ⟨entry, entries, member, others, rfl⟩ := List.forall₂_cons_left_iff.mp written
    obtain ⟨entry', entries, _, _, rfl⟩ := List.forall₂_cons_left_iff.mp others
    obtain ⟨apartFirst, apart⟩ := List.pairwise_cons.mp apart
    obtain ⟨quoted, opens, reads⟩ := member.quoted
    cases joined with
    | @more _ _ left right text _ before behind joined =>
      have admitsNext : ∀ later ∈ next :: settings, (members.add setting).Admits later :=
        fun later among =>
          (admits later (List.mem_cons_of_mem _ among)).add (apartFirst later among)
      obtain ⟨following, begins, longer, readsNext⟩ := ih admitsNext apart others joined
      refine ⟨quoted ++ (right ++ ',' :: (text ++ '\x7d' :: rest)), ?_, ?_, ?_⟩
      · rw [opens, List.append_assoc, List.append_assoc, List.append_assoc,
          Json.dropBlanks_append before]
        rfl
      · have shorter := List.length_dropWhile_le Json.isBlank (text ++ '\x7d' :: rest)
        rw [← Json.dropBlanks, begins] at shorter
        simp only [List.length_append, List.length_cons] at shorter ⊢
        omega
      · intro budget enough
        obtain ⟨budget, rfl⟩ := Nat.exists_eq_add_one.mpr (Nat.zero_lt_of_lt enough)
        rw [readMembers_next reads (admits setting List.mem_cons_self) behind budget begins]
        exact readsNext budget (Nat.lt_of_succ_lt_succ enough)

-----------------------------------------------------------------------------------------
-- Objects, arrays and whole documents
-----------------------------------------------------------------------------------------

/-- What a list of settings comes to, with defaults for what it does not say. -/
def completed (settings : List Setting) : Config := (settings.foldl Members.add {}).complete

theorem readObject_joined {settings : List Setting} {entries : List Entry} {text : List Char}
    (apart : settings.Pairwise Setting.Apart)
    (written : List.Forall₂ Setting.IsMember settings entries)
    (joined : Joined (entries.map Entry.text) text) (rest : List Char)
    : readObject (text ++ '\x7d' :: rest) = .ok (completed settings, rest) := by
  cases settings with
  | nil =>
    obtain rfl := List.forall₂_nil_left_iff.mp written
    cases joined with
    | none blanks =>
      rw [readObject, Json.dropBlanks_append blanks]
      rfl
  | cons setting settings =>
    have admits : ∀ later ∈ setting :: settings, ({} : Members).Admits later := by
      rintro (_ | _ | _) _ <;> trivial
    obtain ⟨quoted, opens, longer, reads⟩ :=
      readMembers_joined admits apart written joined rest
    rw [readObject, opens]
    simp only [reads quoted.length longer, bind, Except.bind]
    rfl

/-- An array that begins with a capacity is read by what stands behind that. -/
theorem readArray_capacity {gap after : List Char} (blanks : Blanks gap) {n : Nat}
    (inRange : n < UInt64.size) (ends : Ends after)
    : readArray (gap ++ (Nat.toDigits 10 n ++ after))
      = match Json.dropBlanks after with
        | ',' :: rest => do
          let (label, rest) ← readLabel rest
          readArrayEnd { capacity := n, label } rest
        | rest => readArrayEnd { capacity := n } rest := by
  have value : IsValue (Nat.toDigits 10 n) := .number (Json.isNumber_toDigits n)
  obtain ⟨c, tail, shape, inner⟩ := value.first
  have other : c ≠ ']' := by
    rintro rfl
    exact inner (by decide)
  have reads := readCapacity_append .nil inRange ends
  rw [readArray, Json.dropBlanks_append blanks, value.dropBlanks]
  rw [List.nil_append, shape, List.cons_append] at reads
  rw [shape, List.cons_append]
  split
  · next begins => exact absurd (List.cons.inj begins).1 other
  · rw [reads]
    rfl

theorem readArray_joined {settings : List Setting} {capacity : Nat} {label : Option String}
    {elements : List (List Char)} {text : List Char}
    (first : settings <+: [.capacity capacity, .label label])
    (written : List.Forall₂ Setting.IsWritten settings elements)
    (joined : Joined elements text) (rest : List Char)
    : readArray (text ++ ']' :: rest) = .ok (completed settings, rest) := by
  rcases List.prefix_cons_iff.mp first with rfl | ⟨others, rfl, second⟩
  · obtain rfl := List.forall₂_nil_left_iff.mp written
    cases joined with
    | none blanks =>
      rw [readArray, Json.dropBlanks_append blanks]
      rfl
  obtain ⟨_, elements, digits, more, rfl⟩ := List.forall₂_cons_left_iff.mp written
  cases digits with | capacity inRange => ?_
  rcases List.prefix_cons_iff.mp second with rfl | ⟨others, rfl, third⟩
  · obtain rfl := List.forall₂_nil_left_iff.mp more
    cases joined with
    | one before behind =>
      have ends : Ends (']' :: rest) := Json.ends_cons (by decide) rest
      rw [List.append_assoc, List.append_assoc,
        readArray_capacity before inRange (behind.ends ends), Json.dropBlanks_append behind]
      rfl
  · obtain rfl := List.prefix_nil.mp third
    obtain ⟨name, _, writtenLabel, others, rfl⟩ := List.forall₂_cons_left_iff.mp more
    obtain rfl := List.forall₂_nil_left_iff.mp others
    cases joined with
    | more before behind joined =>
      cases joined with
      | one beforeLabel behindLabel =>
        have ends : ∀ after, Ends (',' :: after) := Json.ends_cons (by decide)
        simp only [List.append_assoc, List.cons_append]
        rw [readArray_capacity before inRange (behind.ends (ends _)),
          Json.dropBlanks_append behind, Json.dropBlanks_cons (by decide)]
        simp only [readLabel_append beforeLabel writtenLabel, bind, Except.bind,
          readArrayEnd, Json.dropBlanks_append behindLabel]
        rfl

/-- A document is read to its end, and comes to what it describes. -/
theorem ofDocument_describes {settings : List Setting} {text : String}
    (describes : Describes settings text.toList)
    : ofDocument text = .ok (completed settings) := by
  rw [ofDocument]
  generalize text.toList = cs at describes
  cases describes with
  | object apart written joined before behind =>
    rw [Json.dropBlanks_append before, Json.dropBlanks_cons (by decide)]
    simp only [readObject_joined apart written joined, bind, Except.bind]
    rw [behind.dropBlanks]
    rfl
  | array first written joined before behind =>
    rw [Json.dropBlanks_append before, Json.dropBlanks_cons (by decide)]
    simp only [readArray_joined first written joined, bind, Except.bind]
    rw [behind.dropBlanks]
    rfl

-----------------------------------------------------------------------------------------
-- What is read
-----------------------------------------------------------------------------------------

/-- The settings that a document with such members or elements stands for: what they say, a
capacity of 1024 if they say none, and no label if they say none.
-/
structure Completes (settings : List Setting) (config : Config) : Prop where
  capacity : ∀ n, .capacity n ∈ settings → config.capacity = n
  defaultCapacity : (∀ n, .capacity n ∉ settings) → config.capacity = 1024
  label : ∀ label, .label label ∈ settings → config.label = label
  noLabel : (∀ label, .label label ∉ settings) → config.label = none

section
variable {α : Type} (field : Members → α) {settings : List Setting}

/-- What no member changes stays as it was. -/
theorem foldl_add_same
    (keeps : ∀ setting ∈ settings, ∀ members : Members,
      field (members.add setting) = field members)
    (members : Members)
    : field (settings.foldl Members.add members) = field members := by
  induction settings generalizing members with
  | nil => rfl
  | cons setting settings ih =>
    rw [List.foldl_cons, ih fun later among => keeps later (List.mem_cons_of_mem _ among)]
    exact keeps setting List.mem_cons_self members

/-- What a member sets stays so, if nothing apart from it changes that. -/
theorem foldl_add_mem {value : α} {setting : Setting} (among : setting ∈ settings)
    (apart : settings.Pairwise Setting.Apart)
    (sets : ∀ members : Members, field (members.add setting) = value)
    (keeps : ∀ later, setting.Apart later → ∀ members : Members,
      field (members.add later) = field members)
    (members : Members)
    : field (settings.foldl Members.add members) = value := by
  obtain ⟨earlier, later, rfl⟩ := List.append_of_mem among
  have apart := (List.pairwise_cons.mp (List.pairwise_append.mp apart).2.1).1
  rw [List.foldl_append, List.foldl_cons,
    foldl_add_same field fun setting among => keeps setting (apart setting among)]
  exact sets _

end

theorem capacity_add {n : Nat} {later : Setting} (apart : (Setting.capacity n).Apart later)
    (members : Members)
    : (members.add later).capacity = members.capacity := by
  cases later with
  | capacity => exact apart.elim
  | label | other => rfl

theorem label_add {label : Option String} {later : Setting}
    (apart : (Setting.label label).Apart later) (members : Members)
    : (members.add later).label = members.label := by
  cases later with
  | label => exact apart.elim
  | capacity | other => rfl

/-- Defaults are given for just what no member says. -/
theorem completes_completed {settings : List Setting}
    (apart : settings.Pairwise Setting.Apart)
    : Completes settings (completed settings) where
  capacity n among := by
    have reads := foldl_add_mem Members.capacity among apart (fun _ => rfl)
      (fun _ => capacity_add) {}
    rw [completed, Members.complete, reads, Option.getD_some]
  defaultCapacity absent := by
    have keeps : ∀ setting ∈ settings, ∀ members : Members,
        (members.add setting).capacity = members.capacity := by
      rintro (n | _ | _) among _
      · exact absurd among (absent n)
      · rfl
      · rfl
    rw [completed, Members.complete, foldl_add_same Members.capacity keeps]
    rfl
  label label among := by
    have reads := foldl_add_mem Members.label among apart (fun _ => rfl)
      (fun _ => label_add) {}
    rw [completed, Members.complete, reads, Option.getD_some]
  noLabel absent := by
    have keeps : ∀ setting ∈ settings, ∀ members : Members,
        (members.add setting).label = members.label := by
      rintro (_ | label | _) among _
      · rfl
      · exact absurd among (absent label)
      · rfl
    rw [completed, Members.complete, foldl_add_same Members.label keeps]
    rfl

/-- Settings are determined by what says something of them, wherever that stands. -/
theorem Completes.unique {settings others : List Setting} {config other : Config}
    (completes : Completes settings config) (completesOther : Completes others other)
    (alike : ∀ setting, setting ≠ .other → (setting ∈ settings ↔ setting ∈ others))
    : config = other := by
  have capacity : config.capacity = other.capacity := by
    by_cases given : ∃ n, .capacity n ∈ settings
    · obtain ⟨n, among⟩ := given
      rw [completes.capacity n among,
        completesOther.capacity n ((alike _ Setting.noConfusion).mp among)]
    · rw [not_exists] at given
      rw [completes.defaultCapacity given, completesOther.defaultCapacity fun n among =>
        given n ((alike _ Setting.noConfusion).mpr among)]
  have label : config.label = other.label := by
    by_cases given : ∃ label, .label label ∈ settings
    · obtain ⟨label, among⟩ := given
      rw [completes.label label among,
        completesOther.label label ((alike _ Setting.noConfusion).mp among)]
    · rw [not_exists] at given
      rw [completes.noLabel given, completesOther.noLabel fun label among =>
        given label ((alike _ Setting.noConfusion).mpr among)]
  cases config
  cases other
  rw [mk.injEq]
  exact ⟨capacity, label⟩

theorem Setting.apart_both (n : Nat) (label : Option String)
    : [Setting.capacity n, .label label].Pairwise Setting.Apart :=
  .cons (List.forall_mem_singleton.mpr trivial) (List.pairwise_singleton _ _)

/-- No two members or elements of a document say the same kind of thing. -/
theorem Describes.apart {settings : List Setting} {text : List Char}
    (describes : Describes settings text)
    : settings.Pairwise Setting.Apart := by
  cases describes with
  | object apart => exact apart
  | array first => exact .sublist first.sublist (Setting.apart_both _ _)

/-- Every document that describes settings is read, and comes to what it says and to the
defaults for what it does not say. Documents that say the same come to the same: objects
with their members in another order, with other blanks or with other members besides, or an
array in the place of an object.
-/
theorem documents_complete
    : (∀ (settings : List Setting) (text : String),
        Describes settings text.toList
        → ∃ config, ofDocument text = .ok config ∧ Completes settings config)
      ∧ ∀ (settings others : List Setting) (text other : String),
        Describes settings text.toList
        → Describes others other.toList
        → (∀ setting, setting ≠ .other → (setting ∈ settings ↔ setting ∈ others))
        → ofDocument text = ofDocument other := by
  refine ⟨fun settings text describes => ?_, fun settings others text other first second
    alike => ?_⟩
  · exact ⟨_, ofDocument_describes describes, completes_completed describes.apart⟩
  · have same := (completes_completed first.apart).unique
      (completes_completed second.apart) alike
    rw [ofDocument_describes first, ofDocument_describes second, same]

/-- The label comes first under a key with an escape, and a member that nobody looks at has
a capacity, braces and quotes of its own. An array without any of this comes to the same.
-/
theorem documents_complete_shuffled
    : let text := " \x7b\"x\" : [\x7b\"capacity\":\"\x7d\\\"\x7b\"\x7d,null]\n,"
        ++ "\"\\u006Cabel\": \"aA\",\"capacity\":7\x7d "
      (∃ config, ofDocument text = .ok config
        ∧ Completes [.other, .label (some "aA"), .capacity 7] config)
      ∧ ofDocument text = ofDocument "[7 ,\"aA\"]" := by
  intro text
  have blank : Blanks [' '] := List.forall_mem_singleton.mpr rfl
  have newline : Blanks ['\n'] := List.forall_mem_singleton.mpr rfl
  have nested := Json.isValue_chars (.arr [.obj [("capacity", .str "\x7d\"\x7b")], .null])
  have quoted := Json.isStringOf_encodeString
  have digits : Setting.IsWritten (.capacity 7) ['7'] := .capacity (by decide)
  have unit : Json.IsUnit ['0', '0', '6', 'C'] (((0 * 16 + 0) * 16 + 6) * 16 + 12) :=
    .digits ⟨by decide, .inl rfl⟩ ⟨by decide, .inl rfl⟩ ⟨by decide, .inl rfl⟩
      ⟨by decide, .inr rfl⟩
  have key : IsStringOf "\"\\u006Cabel\"".toList "label" :=
    ⟨_, .cons (.number (c := 'l') unit) (Json.spellsAll_flatMap "abel".toList), rfl⟩
  have first : Setting.other.IsMember ⟨"\"x\"".toList, [' '], [' '], _⟩ :=
    ⟨⟨"x", quoted "x", by decide, by decide⟩, blank, blank, .other nested⟩
  have second : (Setting.label (some "aA")).IsMember
      ⟨"\"\\u006Cabel\"".toList, [], [' '], "\"aA\"".toList⟩ :=
    ⟨⟨"label", key, rfl⟩, .nil, blank, .label (quoted "aA")⟩
  have third : (Setting.capacity 7).IsMember ⟨"\"capacity\"".toList, [], [], ['7']⟩ :=
    ⟨⟨"capacity", quoted "capacity", rfl⟩, .nil, .nil, digits⟩
  have object := Describes.object (by simp [Setting.Apart])
    (.cons first (.cons second (.cons third .nil)))
    (.more .nil newline (.more .nil .nil (.single _))) blank blank
  have array := Describes.array List.prefix_rfl
    (.cons digits (.cons (.label (quoted "aA")) .nil)) (.more .nil blank (.single _)) .nil .nil
  have object : Describes [.other, .label (some "aA"), .capacity 7] text.toList := by
    refine Eq.subst (motive := Describes _) ?_ object
    decide
  have array : Describes [.capacity 7, .label (some "aA")] "[7 ,\"aA\"]".toList := by
    refine Eq.subst (motive := Describes _) ?_ array
    decide
  refine ⟨documents_complete.1 _ _ object, documents_complete.2 _ _ _ _ object array ?_⟩
  rintro (_ | _ | _) informative
  · simp
  · simp
  · exact absurd rfl informative

end Conduit.Config
