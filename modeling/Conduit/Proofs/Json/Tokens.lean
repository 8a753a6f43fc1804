import Conduit.Json.Quoted
import Conduit.Json.Token
import Mathlib.Data.List.DropRight

/-! The tokens of JSON text by the grammar of the language, and that the readers accept them.
Each token is described by its characters alone. A reader then takes exactly these off the
front of a text and goes on behind them, whatever stands there; only a number has to be
followed by something that cannot belong to it.
-/

namespace Conduit.Json

-----------------------------------------------------------------------------------------
-- Blanks and literals
-----------------------------------------------------------------------------------------

/-- Characters that may stand between two tokens. -/
def Blanks (gap : List Char) : Prop := ∀ c ∈ gap, isBlank c = true

theorem Blanks.nil : Blanks [] := fun _ member => nomatch member

theorem dropBlanks_append {gap : List Char} (blanks : Blanks gap) (rest : List Char)
    : dropBlanks (gap ++ rest) = dropBlanks rest :=
  List.dropWhile_append_of_pos blanks

theorem Blanks.dropBlanks {gap : List Char} (blanks : Blanks gap) : dropBlanks gap = [] :=
  List.dropWhile_eq_nil_iff.mpr blanks

theorem dropBlanks_cons {c : Char} (solid : isBlank c = false) (rest : List Char)
    : dropBlanks (c :: rest) = c :: rest :=
  List.dropWhile_cons_of_neg (by rw [solid]; exact Bool.false_ne_true)

theorem dropBlanks_idem (cs : List Char) : dropBlanks (dropBlanks cs) = dropBlanks cs :=
  List.dropWhile_idempotent _ _

theorem dropLiteral?_append (literal rest : List Char)
    : dropLiteral? literal (literal ++ rest) = some rest := by
  induction literal with
  | nil => rfl
  | cons l ls ih => rw [List.cons_append, dropLiteral?, if_pos rfl, ih]

-----------------------------------------------------------------------------------------
-- Characters of a string
-----------------------------------------------------------------------------------------

/-- A hexadecimal digit of either case, and its value. -/
def IsHexDigit (digit : Char) (value : Nat) : Prop :=
  value < 16 ∧ (digit = Nat.digitChar value ∨ digit = (Nat.digitChar value).toUpper)

/-- Four hexadecimal digits, and the number that they spell. -/
inductive IsUnit : List Char → Nat → Prop
  | digits {a b c d : Char} {i j k l : Nat} (first : IsHexDigit a i) (second : IsHexDigit b j)
    (third : IsHexDigit c k) (fourth : IsHexDigit d l)
    : IsUnit [a, b, c, d] (((i * 16 + j) * 16 + k) * 16 + l)

/-- What may follow a backslash, other than a number, and the character that it stands for. -/
def escapes : List (Char × Char) :=
  [('"', '"'), ('\\', '\\'), ('/', '/'), ('b', '\x08'), ('f', '\x0c'), ('n', '\n'),
    ('r', '\r'), ('t', '\t')]

/-- The spellings of a character: as it is, by an escape, by its number, or, if that has
more than four hexadecimal digits, by two units that share it.
-/
inductive Spells : List Char → Char → Prop
  | plain {c : Char} (notQuote : c ≠ '"') (notBackslash : c ≠ '\\')
    (notControl : 0x20 ≤ c.toNat)
    : Spells [c] c
  | escape {e c : Char} (known : (e, c) ∈ escapes) : Spells ['\\', e] c
  | number {c : Char} {digits : List Char} (unit : IsUnit digits c.toNat)
    : Spells ('\\' :: 'u' :: digits) c
  | pair {c : Char} {high low : List Char} (large : 0x10000 ≤ c.toNat)
    (first : IsUnit high (0xd800 + (c.toNat - 0x10000) / 0x400))
    (second : IsUnit low (0xdc00 + (c.toNat - 0x10000) % 0x400))
    : Spells ('\\' :: 'u' :: high ++ '\\' :: 'u' :: low) c

/-- A piece of a string that nobody looks at: it spells a character, or it is half of a pair
of units.
-/
inductive IsPiece : List Char → Prop
  | spelled {text : List Char} {c : Char} (spells : Spells text c) : IsPiece text
  | half {digits : List Char} {value : Nat} (unit : IsUnit digits value)
    : IsPiece ('\\' :: 'u' :: digits)

theorem hexValue?_of_isHexDigit {digit : Char} {value : Nat} (hex : IsHexDigit digit value)
    : hexValue? digit = some value := by
  have all : ∀ value < 16, hexValue? (Nat.digitChar value) = some value
      ∧ hexValue? (Nat.digitChar value).toUpper = some value := by
    decide
  obtain ⟨small, rfl | rfl⟩ := hex
  · exact (all value small).1
  · exact (all value small).2

theorem unit?_of_isUnit {a b c d : Char} {value : Nat} (unit : IsUnit [a, b, c, d] value)
    : unit? a b c d = some value := by
  cases unit with
  | digits first second third fourth =>
    rw [unit?, hexValue?_of_isHexDigit first, hexValue?_of_isHexDigit second,
      hexValue?_of_isHexDigit third, hexValue?_of_isHexDigit fourth]
    rfl

theorem isUnit_cases {digits : List Char} {value : Nat} (unit : IsUnit digits value)
    : ∃ a b c d, digits = [a, b, c, d] ∧ unit? a b c d = some value := by
  cases unit with
  | digits first second third fourth =>
    exact ⟨_, _, _, _, rfl, unit?_of_isUnit (.digits first second third fourth)⟩

theorem escaped?_of_mem {e c : Char} (known : (e, c) ∈ escapes)
    : escaped? e = some c ∧ e ≠ 'u' := by
  have all : ∀ entry ∈ escapes, escaped? entry.1 = some entry.2 ∧ entry.1 ≠ 'u' := by decide
  exact all (e, c) known

/-- A character has no number among the units that make pairs. -/
theorem isHighUnit_toNat (c : Char)
    : isHighUnit c.toNat = false ∧ isLowUnit c.toNat = false := by
  have valid : c.toNat.isValidChar := c.valid
  unfold Nat.isValidChar at valid
  simp only [isHighUnit, isLowUnit, Bool.and_eq_false_iff, decide_eq_false_iff_not]
  omega

/-- The units of a pair, of which the first is a high one and the second a low one. -/
theorem pairedChar_units {c : Char} (large : 0x10000 ≤ c.toNat)
    : let high := 0xd800 + (c.toNat - 0x10000) / 0x400
      let low := 0xdc00 + (c.toNat - 0x10000) % 0x400
      isLowUnit high = false
      ∧ isHighUnit high = true
      ∧ isLowUnit low = true
      ∧ pairedChar high low = c := by
  have valid : c.toNat.isValidChar := c.valid
  unfold Nat.isValidChar at valid
  simp only [isHighUnit, isLowUnit, Bool.and_eq_false_iff, Bool.and_eq_true,
    decide_eq_false_iff_not, decide_eq_true_eq]
  refine ⟨by omega, by omega, by omega, ?_⟩
  have number : 0x10000 + (0xd800 + (c.toNat - 0x10000) / 0x400 - 0xd800) * 0x400
      + (0xdc00 + (c.toNat - 0x10000) % 0x400 - 0xdc00) = c.toNat := by
    omega
  rw [pairedChar, number, Char.ofNat_toNat]

-----------------------------------------------------------------------------------------
-- Strings
-----------------------------------------------------------------------------------------

/-- The spellings of some characters, one after the other. -/
inductive SpellsAll : List Char → List Char → Prop
  | nil : SpellsAll [] []
  | cons {text rest : List Char} {c : Char} {cs : List Char} (spells : Spells text c)
    (others : SpellsAll rest cs)
    : SpellsAll (text ++ rest) (c :: cs)

/-- A string in quotes, by the string that it spells. -/
def IsStringOf (text : List Char) (s : String) : Prop :=
  ∃ body, SpellsAll body s.toList ∧ text = '"' :: body ++ ['"']

/-- Some pieces, one after the other. -/
inductive ArePieces : List Char → Prop
  | nil : ArePieces []
  | cons {text rest : List Char} (piece : IsPiece text) (others : ArePieces rest)
    : ArePieces (text ++ rest)

/-- A string in quotes that nobody looks at. -/
def IsString (text : List Char) : Prop := ∃ body, ArePieces body ∧ text = '"' :: body ++ ['"']

theorem SpellsAll.pieces {body cs : List Char} (spelled : SpellsAll body cs)
    : ArePieces body := by
  induction spelled with
  | nil => exact .nil
  | cons spells _ ih => exact .cons (.spelled spells) ih

theorem IsStringOf.isString {text : List Char} {s : String} (spells : IsStringOf text s)
    : IsString text := by
  obtain ⟨body, spelled, rfl⟩ := spells
  exact ⟨body, spelled.pieces, rfl⟩

/-- One spelling gives its character, whatever follows, by cases on the spelling. -/
theorem string?_spells {text : List Char} {c : Char} (spells : Spells text c)
    (rest : List Char)
    : string? (text ++ rest) = consChar c (string? rest) := by
  cases spells with
  | plain notQuote notBackslash notControl =>
    simp [string?, notBackslash, Nat.not_lt.mpr notControl]
  | escape known =>
    obtain ⟨stands, notU⟩ := escaped?_of_mem known
    simp [string?, stands, notU]
  | number unit =>
    obtain ⟨a, b, d, e, rfl, reads⟩ := isUnit_cases unit
    obtain ⟨notHigh, notLow⟩ := isHighUnit_toNat c
    simp [string?, reads, notHigh, notLow]
  | pair large first second =>
    obtain ⟨a, b, d, e, rfl, readsHigh⟩ := isUnit_cases first
    obtain ⟨f, g, h, i, rfl, readsLow⟩ := isUnit_cases second
    obtain ⟨notLow, high, low, paired⟩ := pairedChar_units large
    simp only [string?, List.cons_append, List.nil_append, readsHigh, readsLow, notLow, high,
      low, paired, if_true, Bool.false_eq_true, if_false]

/-- A string reads as what it spells, by induction on its characters. -/
theorem string?_spellsAll {body cs : List Char} (spelled : SpellsAll body cs)
    (rest : List Char)
    : string? (body ++ '"' :: rest) = some (cs, rest) := by
  induction spelled with
  | nil => rfl
  | cons spells _ ih =>
    rw [List.append_assoc, string?_spells spells, ih]
    rfl

/-- A unit is skipped, whatever follows. -/
theorem skipString?_unit {digits : List Char} {value : Nat} (unit : IsUnit digits value)
    (rest : List Char)
    : skipString? ('\\' :: 'u' :: digits ++ rest) = skipString? rest := by
  obtain ⟨a, b, c, d, rfl, reads⟩ := isUnit_cases unit
  simp [skipString?, reads]

theorem skipString?_piece {text : List Char} (piece : IsPiece text) (rest : List Char)
    : skipString? (text ++ rest) = skipString? rest := by
  cases piece with
  | half unit => exact skipString?_unit unit rest
  | spelled spells =>
    cases spells with
    | plain notQuote notBackslash notControl =>
      simp [skipString?, notBackslash, Nat.not_lt.mpr notControl]
    | escape known =>
      obtain ⟨stands, notU⟩ := escaped?_of_mem known
      simp [skipString?, stands, notU]
    | number unit => exact skipString?_unit unit rest
    | pair _ first second =>
      rw [List.append_assoc, skipString?_unit first]
      exact skipString?_unit second rest

/-- A string is skipped up to its closing quote, by induction on its pieces. -/
theorem skipString?_pieces {body : List Char} (pieces : ArePieces body) (rest : List Char)
    : skipString? (body ++ '"' :: rest) = some rest := by
  induction pieces with
  | nil => rfl
  | cons piece _ ih => rw [List.append_assoc, skipString?_piece piece, ih]

/-- A control below the space is spelled by its number, of which the first digits are zero. -/
theorem isUnit_control {n : Nat} (control : n < 0x20)
    : IsUnit ['0', '0', Nat.digitChar (n / 16), Nat.digitChar (n % 16)] n := by
  have zero : IsHexDigit '0' 0 := ⟨by decide, .inl rfl⟩
  have spelled : IsUnit ['0', '0', Nat.digitChar (n / 16), Nat.digitChar (n % 16)]
      (((0 * 16 + 0) * 16 + n / 16) * 16 + n % 16) :=
    .digits zero zero ⟨by omega, .inl rfl⟩ ⟨by omega, .inl rfl⟩
  have number : ((0 * 16 + 0) * 16 + n / 16) * 16 + n % 16 = n := by omega
  rwa [number] at spelled

/-- What is written for a character is one of its spellings. -/
theorem spells_encodeChar (c : Char) : Spells (encodeChar c) c := by
  unfold encodeChar
  -- the seven escapes that are written, in the order in which they are tried
  iterate 7
    split
    · rename_i same
      subst same
      exact .escape (by decide)
  split
  · rename_i control
    exact .number (isUnit_control control)
  · rename_i printable
    exact .plain ‹_› ‹_› (Nat.not_lt.mp printable)

theorem spellsAll_flatMap (cs : List Char) : SpellsAll (cs.flatMap encodeChar) cs := by
  induction cs with
  | nil => exact .nil
  | cons c cs ih => exact .cons (spells_encodeChar c) ih

/-- What is written for a string spells it. -/
theorem isStringOf_encodeString (s : String) : IsStringOf (encodeString s) s :=
  ⟨_, spellsAll_flatMap s.toList, rfl⟩

-----------------------------------------------------------------------------------------
-- Numbers
-----------------------------------------------------------------------------------------

/-- One decimal digit at least. -/
def AreDigits (digits : List Char) : Prop := digits ≠ [] ∧ ∀ d ∈ digits, d.isDigit = true

/-- Digits of which the first is no zero, unless it is the only one. -/
def IsWhole (digits : List Char) : Prop :=
  AreDigits digits ∧ (digits.head? = some '0' → digits = ['0'])

/-- Digits behind a point, or nothing. -/
inductive IsFraction : List Char → Prop
  | none : IsFraction []
  | digits {digits : List Char} (areDigits : AreDigits digits) : IsFraction ('.' :: digits)

/-- A power of ten, with a sign or without, or nothing. -/
inductive IsExponent : List Char → Prop
  | none : IsExponent []
  | digits {e : Char} {sign digits : List Char} (letter : e ∈ ['e', 'E'])
    (signed : sign ∈ [[], ['+'], ['-']]) (areDigits : AreDigits digits)
    : IsExponent (e :: sign ++ digits)

/-- A number: a minus sign or none, a whole number, and a fraction and an exponent that may
be missing.
-/
inductive IsNumber : List Char → Prop
  | parts {sign whole fraction exponent : List Char} (signed : sign ∈ [[], ['-']])
    (isWhole : IsWhole whole) (isFraction : IsFraction fraction)
    (isExponent : IsExponent exponent)
    : IsNumber (sign ++ whole ++ fraction ++ exponent)

/-- What can follow a value: nothing, a blank, a comma or a closing bracket. -/
def Ends (rest : List Char) : Prop :=
  ∀ c ∈ rest.head?, isBlank c = true ∨ c ∈ [',', ']', '\x7d']

theorem ends_cons {c : Char} (closes : c ∈ [',', ']', '\x7d']) (rest : List Char)
    : Ends (c :: rest) := by
  intro _ member
  obtain rfl := Option.some.inj member
  exact .inr closes

theorem Blanks.ends {gap rest : List Char} (blanks : Blanks gap) (ends : Ends rest)
    : Ends (gap ++ rest) := by
  cases gap with
  | nil => exact ends
  | cons c gap =>
    intro _ member
    obtain rfl := Option.some.inj member
    exact .inl (blanks c List.mem_cons_self)

/-- What can follow a value cannot belong to a number. -/
theorem Ends.head {rest : List Char} (ends : Ends rest)
    : ∀ c ∈ rest.head?, c.isDigit = false ∧ c ≠ '.' ∧ c ≠ 'e' ∧ c ≠ 'E' := by
  intro c member
  rcases ends c member with blank | closes
  · simp only [isBlank, Bool.or_eq_true, beq_iff_eq] at blank
    rcases blank with ((rfl | rfl) | rfl) | rfl <;> decide
  · simp only [List.mem_cons, List.not_mem_nil, or_false] at closes
    rcases closes with rfl | rfl | rfl <;> decide

/-- Digits are split off as far as they go. -/
theorem splitDigits_append {digits rest : List Char}
    (areDigits : ∀ d ∈ digits, d.isDigit = true) (ends : ∀ c ∈ rest.head?, c.isDigit = false)
    : splitDigits (digits ++ rest) = (digits, rest) := by
  rw [splitDigits, List.takeWhile_append_of_pos areDigits,
    List.dropWhile_append_of_pos areDigits]
  cases rest with
  | nil => rw [List.takeWhile_nil, List.dropWhile_nil, List.append_nil]
  | cons c rest =>
    have other : ¬ c.isDigit = true := by
      rw [ends c rfl]
      exact Bool.false_ne_true
    rw [List.takeWhile_cons_of_neg other, List.dropWhile_cons_of_neg other, List.append_nil]

theorem AreDigits.head {digits : List Char} (areDigits : AreDigits digits)
    : ∃ d rest, digits = d :: rest ∧ d.isDigit = true := by
  obtain ⟨d, rest, rfl⟩ := List.exists_cons_of_ne_nil areDigits.1
  exact ⟨d, rest, rfl, areDigits.2 d List.mem_cons_self⟩

theorem wholeDigits_of_isWhole {digits : List Char} (isWhole : IsWhole digits)
    : wholeDigits digits = true := by
  obtain ⟨areDigits, zero⟩ := isWhole
  match digits with
  | [] => exact absurd rfl areDigits.1
  | [_] => rfl
  | c :: d :: digits =>
    rw [wholeDigits]
    · by_contra leading
      rw [bne_iff_ne, ne_eq, not_not] at leading
      cases zero (congrArg some leading)
    · exact List.cons_ne_nil _ _

/-- No fraction is read where a number is over. -/
theorem fraction?_none {rest : List Char} (ends : ∀ c ∈ rest.head?, c ≠ '.')
    : fraction? rest = some (none, rest) := by
  match rest with
  | [] => rfl
  | c :: rest =>
    have other := ends c rfl
    simp [fraction?, other]

/-- A fraction is read up to its last digit. -/
theorem fraction?_append {fraction rest : List Char} (isFraction : IsFraction fraction)
    (ends : ∀ c ∈ rest.head?, c.isDigit = false ∧ c ≠ '.')
    : ∃ part, fraction? (fraction ++ rest) = some (part, rest) := by
  cases isFraction with
  | none => exact ⟨none, fraction?_none fun c member => (ends c member).2⟩
  | @digits digits areDigits =>
    refine ⟨some digits, ?_⟩
    have split := splitDigits_append areDigits.2 fun c member => (ends c member).1
    simp [fraction?, split, areDigits.1]

theorem exponent?_none {rest : List Char} (ends : ∀ c ∈ rest.head?, c ≠ 'e' ∧ c ≠ 'E')
    : exponent? rest = some (none, rest) := by
  match rest with
  | [] => rfl
  | c :: rest =>
    obtain ⟨notSmall, notLarge⟩ := ends c rfl
    rw [exponent?, if_neg (not_or.mpr ⟨notSmall, notLarge⟩)]

/-- The sign of an exponent is taken off before its first digit. -/
theorem exponentSign_append {sign digits : List Char} (signed : sign ∈ [[], ['+'], ['-']])
    (areDigits : AreDigits digits) (rest : List Char)
    : ∃ negative, exponentSign (sign ++ digits ++ rest) = (negative, digits ++ rest) := by
  simp only [List.mem_cons, List.not_mem_nil, or_false] at signed
  rcases signed with rfl | rfl | rfl
  · obtain ⟨d, tail, rfl, isDigit⟩ := areDigits.head
    have notMinus : d ≠ '-' := by
      rintro rfl
      cases isDigit
    have notPlus : d ≠ '+' := by
      rintro rfl
      cases isDigit
    exact ⟨false, by simp [exponentSign, notMinus, notPlus]⟩
  · exact ⟨false, rfl⟩
  · exact ⟨true, rfl⟩

/-- An exponent is read up to its last digit. -/
theorem exponent?_append {exponent rest : List Char} (isExponent : IsExponent exponent)
    (ends : ∀ c ∈ rest.head?, c.isDigit = false ∧ c ≠ 'e' ∧ c ≠ 'E')
    : ∃ part, exponent? (exponent ++ rest) = some (part, rest) := by
  cases isExponent with
  | none => exact ⟨none, exponent?_none fun c member => (ends c member).2⟩
  | @digits e sign digits letter signed areDigits =>
    obtain ⟨negative, takesSign⟩ := exponentSign_append signed areDigits rest
    refine ⟨some (negative, digits), ?_⟩
    have split := splitDigits_append areDigits.2 fun c member => (ends c member).1
    have begins : e = 'e' ∨ e = 'E' := by simpa using letter
    have empty : digits.isEmpty = false := List.isEmpty_eq_false_iff.mpr areDigits.1
    rw [List.cons_append, List.cons_append, exponent?, if_pos begins, takesSign]
    simp only [split, empty, Bool.false_eq_true, if_false]

/-- A number is read from its parts. -/
theorem numberText?_parts {sign whole more after rest : List Char}
    {fraction : Option (List Char)} {exponent : Option (Bool × List Char)}
    (signed : sign ∈ [[], ['-']]) (isWhole : IsWhole whole)
    (ends : ∀ c ∈ more.head?, c.isDigit = false)
    (readsFraction : fraction? more = some (fraction, after))
    (readsExponent : exponent? after = some (exponent, rest))
    : numberText? (sign ++ whole ++ more)
      = some (⟨sign == ['-'], whole, fraction, exponent⟩, rest) := by
  have split := splitDigits_append isWhole.1.2 ends
  have begins := wholeDigits_of_isWhole isWhole
  simp only [List.mem_cons, List.not_mem_nil, or_false] at signed
  rcases signed with rfl | rfl
  · obtain ⟨d, tail, rfl, isDigit⟩ := isWhole.1.head
    have notMinus : d ≠ '-' := by
      rintro rfl
      cases isDigit
    simp only [List.nil_append, List.cons_append] at split ⊢
    simp [numberText?, notMinus, split, begins, readsFraction, readsExponent]
  · simp [numberText?, split, begins, readsFraction, readsExponent]

/-- Neither a fraction nor an exponent begins with a digit. -/
theorem IsFraction.head {fraction rest : List Char} (isFraction : IsFraction fraction)
    (ends : ∀ c ∈ rest.head?, c.isDigit = false)
    : ∀ c ∈ (fraction ++ rest).head?, c.isDigit = false := by
  cases isFraction with
  | none => exact ends
  | digits =>
    intro c member
    obtain rfl := Option.some.inj member
    rfl

theorem IsExponent.head {exponent rest : List Char} (isExponent : IsExponent exponent)
    (ends : ∀ c ∈ rest.head?, c.isDigit = false ∧ c ≠ '.')
    : ∀ c ∈ (exponent ++ rest).head?, c.isDigit = false ∧ c ≠ '.' := by
  cases isExponent with
  | none => exact ends
  | digits letter =>
    intro c member
    obtain rfl := Option.some.inj member
    simp only [List.mem_cons, List.not_mem_nil, or_false] at letter
    rcases letter with rfl | rfl <;> decide

/-- A number is read up to its last character, if something else follows. -/
theorem numberText?_append {text rest : List Char} (number : IsNumber text) (ends : Ends rest)
    : ∃ parts, numberText? (text ++ rest) = some (parts, rest) := by
  obtain ⟨signed, isWhole, isFraction, isExponent⟩ := number
  have head := ends.head
  have behind := isExponent.head fun c member => ⟨(head c member).1, (head c member).2.1⟩
  obtain ⟨_, readsExponent⟩ :=
    exponent?_append isExponent fun c member => ⟨(head c member).1, (head c member).2.2⟩
  obtain ⟨_, readsFraction⟩ := fraction?_append isFraction behind
  have reads := numberText?_parts signed isWhole
    (isFraction.head fun c member => (behind c member).1) readsFraction readsExponent
  simp only [List.append_assoc] at reads ⊢
  exact ⟨_, reads⟩

/-- The decimal digits of a number do not begin with a zero, unless it is zero. -/
theorem head_toDigits (n : Nat) : (Nat.toDigits 10 n).head? = some '0' → n = 0 := by
  induction n using Nat.strong_induction_on with
  | _ n ih =>
    rw [Nat.toDigits_eq_if (by decide)]
    split
    · intro zero
      have all : ∀ n < 10, Nat.digitChar n = '0' → n = 0 := by decide
      exact all n ‹_› (Option.some.inj zero)
    · intro zero
      rw [List.head?_append_of_ne_nil _ Nat.toDigits_ne_nil] at zero
      have := ih (n / 10) (by omega) zero
      omega

/-- Decimal digits are a whole number. -/
theorem isWhole_toDigits (n : Nat) : IsWhole (Nat.toDigits 10 n) := by
  refine ⟨⟨Nat.toDigits_ne_nil, fun d member => ?_⟩, fun zero => ?_⟩
  · exact Nat.isDigit_of_mem_toDigits (by decide) (by decide) member
  · rw [head_toDigits n zero, Nat.toDigits_zero]

theorem digitsValue_toDigits (n : Nat) : digitsValue (Nat.toDigits 10 n) = n := by
  have same : (fun n c => n * 10 + digitValue c)
      = fun n (c : Char) => 10 * n + (c.toNat - '0'.toNat) := by
    funext n c
    rw [digitValue, Nat.mul_comm]
  rw [digitsValue, same, ← Nat.ofDigitChars_eq_foldl, Nat.ofDigitChars_ten_toDigits]

/-- The decimal digits of a number of 64 bits read as that number. -/
theorem number?_toDigits {n : Nat} (inRange : n < UInt64.size) {rest : List Char}
    (ends : Ends rest)
    : number? (Nat.toDigits 10 n ++ rest) = some (.natural n, rest) := by
  have head := ends.head
  have parts : numberText? (Nat.toDigits 10 n ++ rest)
      = some (⟨false, Nat.toDigits 10 n, none, none⟩, rest) :=
    numberText?_parts (List.mem_cons_self : [] ∈ [[], ['-']]) (isWhole_toDigits n)
      (fun c member => (head c member).1)
      (fraction?_none fun c member => (head c member).2.1)
      (exponent?_none fun c member => (head c member).2.2)
  have word : n ≤ largestWord := Nat.le_pred_of_lt inRange
  rw [number?, parts]
  simp [NumberText.value?, digitsValue_toDigits, word]

end Conduit.Json
