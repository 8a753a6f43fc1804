import Conduit.Json.Token

/-!
Skipping a JSON value that nobody looks at. The value must be well formed, but its numbers
may have any size. This stands for what the JSON library does with members that the reader of
a document does not ask for.
-/

namespace Conduit.Json

/-- The rest after a member's key, of which the opening quote has been read, and the colon
behind it.
-/
def skipKey? (cs : List Char) : Option (List Char) :=
  match (skipString? cs).map dropBlanks with
  | some (':' :: rest) => some rest
  | _ => none

mutual
/-- The rest after one value. The budget bounds the nesting and the number of elements. -/
def skipValue? : (budget : Nat) → List Char → Option (List Char)
  | 0, _ => none
  | budget + 1, cs =>
    match dropBlanks cs with
    | 'n' :: rest => dropLiteral? ['u', 'l', 'l'] rest
    | 't' :: rest => dropLiteral? ['r', 'u', 'e'] rest
    | 'f' :: rest => dropLiteral? ['a', 'l', 's', 'e'] rest
    | '"' :: rest => skipString? rest
    | '[' :: rest =>
      match dropBlanks rest with
      | ']' :: rest => some rest
      | rest => skipElements? budget rest
    | '\x7b' :: rest =>
      match dropBlanks rest with
      | '\x7d' :: rest => some rest
      | '"' :: rest => skipMembers? budget rest
      | _ => none
    | cs => (numberText? cs).map (·.2)

/-- The rest after the elements of an array and its closing bracket. -/
def skipElements? : (budget : Nat) → List Char → Option (List Char)
  | 0, _ => none
  | budget + 1, cs =>
    match (skipValue? budget cs).map dropBlanks with
    | some (',' :: rest) => skipElements? budget rest
    | some (']' :: rest) => some rest
    | _ => none

/-- The rest after the members of an object, of which the first quote has been read, and
its closing brace.
-/
def skipMembers? : (budget : Nat) → List Char → Option (List Char)
  | 0, _ => none
  | budget + 1, cs =>
    match ((skipKey? cs).bind (skipValue? budget)).map dropBlanks with
    | some (',' :: rest) =>
      match dropBlanks rest with
      | '"' :: rest => skipMembers? budget rest
      | _ => none
    | some ('\x7d' :: rest) => some rest
    | _ => none
end

/-- The rest after one value. Every character accounts for at most two steps. -/
def skip? (cs : List Char) : Option (List Char) := skipValue? (2 * cs.length + 1) cs

end Conduit.Json
