import Conduit.Decimal.Binary64

/-!
The tokens of JSON text. Each reader takes the rest of a text and gives what it read and the
rest after that, or nothing if the text does not go on as it should.

Settings are read and written by a JSON library. What it does with tokens, values and quoted
strings is assumed in the modules on JSON: they follow its description.
-/

namespace Conduit.Json

-----------------------------------------------------------------------------------------
-- Blanks and literals
-----------------------------------------------------------------------------------------

/-- What may stand between two tokens. -/
def isBlank (c : Char) : Bool := c == ' ' || c == '\n' || c == '\t' || c == '\r'

def dropBlanks (cs : List Char) : List Char := cs.dropWhile isBlank

/-- The rest after the characters of `literal`. -/
def dropLiteral? : (literal : List Char) → List Char → Option (List Char)
  | [], cs => some cs
  | _ :: _, [] => none
  | l :: ls, c :: cs => if l = c then dropLiteral? ls cs else none

-----------------------------------------------------------------------------------------
-- Strings
-----------------------------------------------------------------------------------------

/-- The value of a hexadecimal digit of either case. -/
def hexValue? (c : Char) : Option Nat :=
  if '0' ≤ c ∧ c ≤ '9' then some (c.toNat - '0'.toNat)
  else if 'a' ≤ c ∧ c ≤ 'f' then some (c.toNat - 'a'.toNat + 10)
  else if 'A' ≤ c ∧ c ≤ 'F' then some (c.toNat - 'A'.toNat + 10)
  else none

/-- The number that four hexadecimal digits spell. -/
def unit? (a b c d : Char) : Option Nat := do
  return (((← hexValue? a) * 16 + (← hexValue? b)) * 16 + (← hexValue? c)) * 16
    + (← hexValue? d)

/-- The first half of a pair of units that spells one character. -/
def isHighUnit (u : Nat) : Bool := 0xd800 ≤ u && u < 0xdc00

/-- The second half of such a pair. -/
def isLowUnit (u : Nat) : Bool := 0xdc00 ≤ u && u < 0xe000

/-- The character that a pair of units spells. -/
def pairedChar (high low : Nat) : Char :=
  Char.ofNat (0x10000 + (high - 0xd800) * 0x400 + (low - 0xdc00))

/-- The character after a backslash, other than one spelled by number. -/
def escaped? (c : Char) : Option Char :=
  if c = '"' then some '"'
  else if c = '\\' then some '\\'
  else if c = '/' then some '/'
  else if c = 'b' then some '\x08'
  else if c = 'f' then some '\x0c'
  else if c = 'n' then some '\n'
  else if c = 'r' then some '\r'
  else if c = 't' then some '\t'
  else none

/-- Puts a character in front of what the rest of a string holds. -/
def consChar (c : Char) (tail : Option (List Char × List Char))
    : Option (List Char × List Char) :=
  tail.map fun (s, rest) => (c :: s, rest)

/-- A string up to its closing quote, of which the opening quote has been read. Controls
must be escaped, and half a pair of units spells nothing.
-/
def string? : List Char → Option (List Char × List Char)
  | [] => none
  | '"' :: rest => some ([], rest)
  | '\\' :: 'u' :: a :: b :: c :: d :: rest =>
    match unit? a b c d with
    | none => none
    | some unit =>
      if isLowUnit unit then none
      else if isHighUnit unit then
        match rest with
        | '\\' :: 'u' :: e :: f :: g :: h :: rest =>
          match unit? e f g h with
          | none => none
          | some low =>
            if isLowUnit low then consChar (pairedChar unit low) (string? rest) else none
        | _ => none
      else consChar (Char.ofNat unit) (string? rest)
  | '\\' :: c :: rest =>
    match escaped? c with
    | none => none
    | some e => consChar e (string? rest)
  | c :: rest => if c.toNat < 0x20 then none else consChar c (string? rest)

/-- The rest after a string that nobody looks at. Four hexadecimal digits spell a unit here
whether or not the units form characters.
-/
def skipString? : List Char → Option (List Char)
  | [] => none
  | '"' :: rest => some rest
  | '\\' :: 'u' :: a :: b :: c :: d :: rest =>
    if (unit? a b c d).isSome then skipString? rest else none
  | '\\' :: c :: rest => if (escaped? c).isSome then skipString? rest else none
  | c :: rest => if c.toNat < 0x20 then none else skipString? rest

-----------------------------------------------------------------------------------------
-- Numbers
-----------------------------------------------------------------------------------------

/-- The parts of a number as they are written. -/
structure NumberText where
  negative : Bool
  whole : List Char
  fraction : Option (List Char)
  /-- Whether the exponent is negative, and its digits. -/
  exponent : Option (Bool × List Char)

/-- Splits the digits off the front. -/
def splitDigits (cs : List Char) : List Char × List Char :=
  (cs.takeWhile Char.isDigit, cs.dropWhile Char.isDigit)

/-- The digits after a point, at least one. -/
def fraction? : List Char → Option (Option (List Char) × List Char)
  | '.' :: rest =>
    let (digits, rest) := splitDigits rest
    if digits.isEmpty then none else some (some digits, rest)
  | cs => some (none, cs)

/-- Whether an exponent is negative, and the rest after its sign. -/
def exponentSign : List Char → Bool × List Char
  | '-' :: rest => (true, rest)
  | '+' :: rest => (false, rest)
  | rest => (false, rest)

/-- The sign and the digits of an exponent, at least one. -/
def exponent? : List Char → Option (Option (Bool × List Char) × List Char)
  | c :: rest =>
    if c = 'e' ∨ c = 'E' then
      let (negative, rest) := exponentSign rest
      let (digits, rest) := splitDigits rest
      if digits.isEmpty then none else some (some (negative, digits), rest)
    else some (none, c :: rest)
  | [] => some (none, [])

/-- Whether digits may begin a number: one at least, and no zero before another digit. -/
def wholeDigits : List Char → Bool
  | [] => false
  | [_] => true
  | c :: _ => c != '0'

/-- A number up to the first character that cannot belong to it. -/
def numberText? (cs : List Char) : Option (NumberText × List Char) := do
  let (negative, cs) := match cs with
    | '-' :: rest => (true, rest)
    | cs => (false, cs)
  let (whole, cs) := splitDigits cs
  if !wholeDigits whole then none
  let (fraction, cs) ← fraction? cs
  let (exponent, cs) ← exponent? cs
  return (⟨negative, whole, fraction, exponent⟩, cs)

/-- A number by its kind: integers of 64 bits are exact, all others are rounded. -/
inductive Number
  | natural (n : Nat)
  /-- The integer `-n`, where `n` is not zero. -/
  | negative (n : Nat)
  | floating (negative : Bool) (magnitude : Decimal.Binary64)
  deriving DecidableEq, Repr

def digitValue (c : Char) : Nat := c.toNat - '0'.toNat

/-- The number that digits spell. -/
def digitsValue (digits : List Char) : Nat :=
  digits.foldl (fun n c => n * 10 + digitValue c) 0

/-- The largest unsigned number of 64 bits. -/
def largestWord : Nat := Nat.pow 2 64 - 1

/-- Appends digits to a significand as long as it stays within 64 bits, and tells how many
were appended.
-/
def appendDigits (significand : Nat) : List Char → Nat × Nat
  | [] => (significand, 0)
  | c :: cs =>
    let longer := significand * 10 + digitValue c
    if longer ≤ largestWord then
      let (last, count) := appendDigits longer cs
      (last, count + 1)
    else (significand, 0)

/-- The largest power of ten with a binary number of its own. -/
def largestPower : Nat := 308

/-- Divides by powers of ten, as large ones as there are; a vanished number stays zero. Each
step rounds.
-/
def divideByPower (x : Decimal.Binary64) (power : Nat) : Option Decimal.Binary64 :=
  if power ≤ largestPower then
    (Decimal.Binary64.ofNat? (Nat.pow 10 power)).bind x.div?
  else if x.mantissa = 0 then some x
  else
    ((Decimal.Binary64.ofNat? (Nat.pow 10 largestPower)).bind x.div?).bind
      (divideByPower · (power - largestPower))
  termination_by power
  decreasing_by simp [largestPower] at *; omega

/-- `significand * 10 ^ exponent` in rounded arithmetic: the significand is rounded, the
power is rounded, and so is their product or quotient. None if it is too large.
-/
def scale? (significand : Nat) (exponent : Int) : Option Decimal.Binary64 := do
  let x ← Decimal.Binary64.ofNat? significand
  if exponent < 0 then divideByPower x (-exponent).toNat
  else if exponent.toNat ≤ largestPower then
    x.mul? (← Decimal.Binary64.ofNat? (Nat.pow 10 exponent.toNat))
  else if significand = 0 then some x
  else none

/-- The largest exponent that is counted; a larger one makes every number vanish or burst. -/
def largestExponent : Nat := Nat.pow 2 31 - 1

/-- The magnitude of a number that is no integer of 64 bits. Digits that no longer fit into
the significand count as zeros before the point and are left out after it.
-/
def NumberText.magnitude? (number : NumberText) : Option Decimal.Binary64 :=
  let (significand, kept) := appendDigits 0 number.whole
  let dropped := number.whole.length - kept
  let (significand, places) := appendDigits significand (number.fraction.getD [])
  let shift : Int := (dropped : Int) - places
  match number.exponent with
  | none => scale? significand shift
  | some (negative, digits) =>
    let power := digitsValue digits
    if power > largestExponent then
      if significand = 0 ∨ negative then scale? 0 0 else none
    else scale? significand (if negative then shift - power else shift + power)

/-- The value of a number, or none if its magnitude is past the largest binary number. The
integer `-0` is not an integer, since integers have one zero.
-/
def NumberText.value? (number : NumberText) : Option Number :=
  let whole := digitsValue number.whole
  if number.fraction.isNone ∧ number.exponent.isNone ∧ whole ≤ largestWord
      ∧ (number.negative → 0 < whole ∧ whole ≤ Nat.pow 2 63) then
    some (if number.negative then .negative whole else .natural whole)
  else number.magnitude?.map (.floating number.negative)

/-- A number and the rest after it. -/
def number? (cs : List Char) : Option (Number × List Char) := do
  let (number, rest) ← numberText? cs
  return (← number.value?, rest)

end Conduit.Json
