import Conduit.Config.Basic
import Conduit.Decimal.Shortest
import Conduit.Json.Skip

/-!
Reading the settings of a queue from a JSON document: an object with any of the two members,
others being skipped, or an array of the first of them. A text is judged from left to right,
and the first fault decides, so a member of the wrong kind is reported as soon as its first
token is complete.

The settings name their members and say that each of them may be left out. All else is assumed:
it is what the JSON library and the readers that it derives do by their description.
-/

namespace Conduit.Config

-----------------------------------------------------------------------------------------
-- What can be wrong with a document
-----------------------------------------------------------------------------------------

/-- What stands in a document. -/
inductive Found
  | string (s : String)
  | integer (n : Int)
  | floating (negative : Bool) (magnitude : Decimal.Binary64)
  | boolean (b : Bool)
  | null
  | sequence
  | map
  deriving DecidableEq, Repr

/-- Rounded numbers have an exponent from 10^16 on and below 10^-5, and always a sign in it. -/
def numberLayout : Decimal.Layout := ⟨-4, 16, "+"⟩

def Found.text : Found → String
  | string s => "string " ++ Text.quoted s
  | integer n => "integer `" ++ toString n ++ "`"
  | floating negative magnitude =>
    "floating point `" ++ (if negative then "-" else "")
      ++ numberLayout.write (Decimal.shortest magnitude) ++ "`"
  | boolean b => "boolean `" ++ (if b then "true" else "false") ++ "`"
  | null => "null"
  | sequence => "sequence"
  | map => "map"

/-- What should stand there. -/
inductive Expected
  | capacity
  | label
  | config
  deriving DecidableEq, Repr

def Expected.text : Expected → String
  | capacity => "usize"
  | label => "a string"
  | config => "struct QueueConfig"

/-- A well-formed document that does not describe settings. -/
inductive Mismatch
  | wrongType (found : Found) (expected : Expected)
  | wrongValue (found : Found) (expected : Expected)
  | duplicate (member : String)
  deriving DecidableEq, Repr

def Mismatch.message : Mismatch → String
  | wrongType found expected =>
    "invalid type: " ++ found.text ++ ", expected " ++ expected.text
  | wrongValue found expected =>
    "invalid value: " ++ found.text ++ ", expected " ++ expected.text
  | duplicate member => "duplicate field `" ++ member ++ "`"

/-- Why a document cannot be read. -/
inductive ReadError
  /-- It is not JSON, or an array of too many elements. -/
  | malformed
  | unsuitable (mismatch : Mismatch)
  deriving DecidableEq, Repr

-----------------------------------------------------------------------------------------
-- Members
-----------------------------------------------------------------------------------------

/-- The fault of a text that goes on with something other than expected. -/
def wrongType (expected : Expected) (cs : List Char) : ReadError :=
  let literal (rest word : List Char) (found : Found) : ReadError :=
    if (Json.dropLiteral? word rest).isSome then .unsuitable (.wrongType found expected)
    else .malformed
  match cs with
  | 'n' :: rest => literal rest ['u', 'l', 'l'] .null
  | 't' :: rest => literal rest ['r', 'u', 'e'] (.boolean true)
  | 'f' :: rest => literal rest ['a', 'l', 's', 'e'] (.boolean false)
  | '"' :: rest =>
    match Json.string? rest with
    | some (s, _) => .unsuitable (.wrongType (.string (String.ofList s)) expected)
    | none => .malformed
  | '[' :: _ => .unsuitable (.wrongType .sequence expected)
  | '\x7b' :: _ => .unsuitable (.wrongType .map expected)
  | cs =>
    match Json.number? cs with
    | some (.natural n, _) => .unsuitable (.wrongType (.integer n) expected)
    | some (.negative n, _) => .unsuitable (.wrongType (.integer (-n)) expected)
    | some (.floating negative x, _) =>
      .unsuitable (.wrongType (.floating negative x) expected)
    | none => .malformed

/-- Whether a text goes on with a number. -/
def startsNumber : List Char → Bool
  | c :: _ => c == '-' || c.isDigit
  | [] => false

/-- A capacity: an integer of 64 bits without sign. -/
def readCapacity (cs : List Char) : Except ReadError (Nat × List Char) :=
  let cs := Json.dropBlanks cs
  if startsNumber cs then
    match Json.number? cs with
    | some (.natural n, rest) => .ok (n, rest)
    | some (.negative n, _) => .error (.unsuitable (.wrongValue (.integer (-n)) .capacity))
    | some (.floating negative x, _) =>
      .error (.unsuitable (.wrongType (.floating negative x) .capacity))
    | none => .error .malformed
  else .error (wrongType .capacity cs)

/-- A label: a string or null. -/
def readLabel (cs : List Char) : Except ReadError (Option String × List Char) :=
  match Json.dropBlanks cs with
  | 'n' :: rest =>
    match Json.dropLiteral? ['u', 'l', 'l'] rest with
    | some rest => .ok (none, rest)
    | none => .error .malformed
  | '"' :: rest =>
    match Json.string? rest with
    | some (s, rest) => .ok (some (String.ofList s), rest)
    | none => .error .malformed
  | cs => .error (wrongType .label cs)

-----------------------------------------------------------------------------------------
-- Objects and arrays
-----------------------------------------------------------------------------------------

/-- The members read so far. -/
structure Members where
  capacity : Option Nat := none
  label : Option (Option String) := none

/-- Missing members have their default. -/
def Members.complete (members : Members) : Config :=
  let defaults : Config := {}
  { capacity := members.capacity.getD defaults.capacity
    label := members.label.getD defaults.label }

/-- The rest after a colon. -/
def readColon (cs : List Char) : Except ReadError (List Char) :=
  match Json.dropBlanks cs with
  | ':' :: rest => .ok rest
  | _ => .error .malformed

/-- The value of the member `key`, from its colon on. A second value for one member is
refused before it is looked at.
-/
def readMember (members : Members) (key : String) (cs : List Char)
    : Except ReadError (Members × List Char) :=
  if key = "capacity" then
    if members.capacity.isSome then .error (.unsuitable (.duplicate key))
    else do
      let (capacity, rest) ← readCapacity (← readColon cs)
      return ({ members with capacity := some capacity }, rest)
  else if key = "label" then
    if members.label.isSome then .error (.unsuitable (.duplicate key))
    else do
      let (label, rest) ← readLabel (← readColon cs)
      return ({ members with label := some label }, rest)
  else do
    match Json.skip? (← readColon cs) with
    | some rest => return (members, rest)
    | none => .error .malformed

/-- The members of an object from the first quote on, and its closing brace. Every member
takes some characters, whose number is the budget.
-/
def readMembers
    : (budget : Nat) → Members → List Char → Except ReadError (Members × List Char)
  | 0, _, _ => .error .malformed
  | budget + 1, members, cs =>
    match Json.string? cs with
    | none => .error .malformed
    | some (key, rest) => do
      let (members, rest) ← readMember members (String.ofList key) rest
      match Json.dropBlanks rest with
      | '\x7d' :: rest => return (members, rest)
      | ',' :: rest =>
        match Json.dropBlanks rest with
        | '"' :: rest => readMembers budget members rest
        | _ => .error .malformed
      | _ => .error .malformed

/-- An object after its opening brace. -/
def readObject (cs : List Char) : Except ReadError (Config × List Char) :=
  match Json.dropBlanks cs with
  | '\x7d' :: rest => .ok ({}, rest)
  | '"' :: rest => do
    let (members, rest) ← readMembers rest.length {} rest
    return (members.complete, rest)
  | _ => .error .malformed

/-- The end of an array after its last element. -/
def readArrayEnd (config : Config) (cs : List Char)
    : Except ReadError (Config × List Char) :=
  match Json.dropBlanks cs with
  | ']' :: rest => .ok (config, rest)
  | _ => .error .malformed

/-- An array after its opening bracket: nothing, a capacity, or a capacity and a label. -/
def readArray (cs : List Char) : Except ReadError (Config × List Char) :=
  match Json.dropBlanks cs with
  | ']' :: rest => .ok ({}, rest)
  | cs => do
    let (capacity, rest) ← readCapacity cs
    match Json.dropBlanks rest with
    | ',' :: rest =>
      let (label, rest) ← readLabel rest
      readArrayEnd { capacity, label } rest
    | rest => readArrayEnd { capacity } rest

/-- The settings that a whole text describes; nothing but blanks may follow them. -/
def ofDocument (text : String) : Except ReadError Config := do
  let (config, rest) ← match Json.dropBlanks text.toList with
    | '\x7b' :: rest => readObject rest
    | '[' :: rest => readArray rest
    | cs => .error (wrongType .config cs)
  if (Json.dropBlanks rest).isEmpty then return config else .error .malformed

end Conduit.Config
