import Conduit.Json.Quoted

/-!
JSON values with exact integers, and their compact text: no blanks, members in the order in
which they are held. The text is the one that the JSON library is assumed to write.
-/

namespace Conduit.Json

/-- A JSON value. -/
inductive Value
  | null
  | bool (b : Bool)
  | int (n : Int)
  | str (s : String)
  | arr (elements : List Value)
  | obj (members : List (String × Value))

namespace Value

mutual
/-- Whether two values are the same; members are compared in order. -/
def same : Value → Value → Bool
  | null, null => true
  | bool a, bool b => a == b
  | int a, int b => a == b
  | str a, str b => a == b
  | arr a, arr b => sameElements a b
  | obj a, obj b => sameMembers a b
  | _, _ => false

def sameElements : List Value → List Value → Bool
  | [], [] => true
  | a :: as, b :: bs => same a b && sameElements as bs
  | _, _ => false

def sameMembers : List (String × Value) → List (String × Value) → Bool
  | [], [] => true
  | (k, a) :: as, (l, b) :: bs => k == l && same a b && sameMembers as bs
  | _, _ => false
end

instance : BEq Value := ⟨same⟩

mutual
/-- The compact text of a value. -/
def chars : Value → List Char
  | null => ['n', 'u', 'l', 'l']
  | bool true => ['t', 'r', 'u', 'e']
  | bool false => ['f', 'a', 'l', 's', 'e']
  | int n => (toString n).toList
  | str s => encodeString s
  | arr elements => '[' :: elementChars elements ++ [']']
  | obj members => '\x7b' :: memberChars members ++ ['\x7d']

/-- Elements with a comma before each but the first. -/
def elementChars : List Value → List Char
  | [] => []
  | [v] => chars v
  | v :: vs => chars v ++ ',' :: elementChars vs

def memberChars : List (String × Value) → List Char
  | [] => []
  | [(k, v)] => encodeString k ++ ':' :: chars v
  | (k, v) :: rest => encodeString k ++ ':' :: chars v ++ ',' :: memberChars rest
end

/-- The compact text of a value. -/
def text (v : Value) : String := String.ofList v.chars

/-- The length of a string in UTF-8 bytes; other values have none. -/
def byteLength : Value → Value
  | str s => int s.utf8ByteSize
  | _ => null

end Value

end Conduit.Json
