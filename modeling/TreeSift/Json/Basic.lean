import TreeSift.Number.Layout

/-!
# TreeSift.Json.Basic

JSON documents and their compact text.

1. A number is an integer of 64 bits, with or without sign, or a double; the two are never mixed up
   when a document is written again.
2. The members of an object keep the order in which their keys first came; a key that comes again
   changes the value in place.
3. Compact text has no blanks.  Quotes, backslashes and control characters are escaped, nothing
   else; a double that is no finite number is `null`.
-/

namespace TreeSift

/-- A JSON document. -/
inductive Json where
  | null
  | boolean (b : Bool)
  | integer (n : Int)
  | float (x : Binary64)
  | string (s : String)
  | array (items : List Json)
  | object (members : List (String × Json))
deriving Repr, Inhabited

namespace Json

/-- Sets the value of a key, in place if it is there and otherwise at the end. -/
def insert {α : Type} (members : List (String × α)) (key : String) (value : α) :
    List (String × α) :=
  if members.any fun m => m.1 == key then
    members.map fun m => if m.1 == key then (m.1, value) else m
  else members ++ [(key, value)]

/-- Members written one after the other: of equal keys the last value counts, at the first place. -/
def ofMembers {α : Type} (members : List (String × α)) : List (String × α) :=
  members.foldl (fun acc m => insert acc m.1 m.2) []

/-- The value of a member. -/
def field? (j : Json) (key : String) : Option Json :=
  match j with
  | object ms => (ms.find? fun m => m.1 == key).map Prod.snd
  | _ => none

/-! ## Compact text -/

/-- A lower case hexadecimal digit. -/
def hexChar (n : Nat) : Char :=
  if n < 10 then Char.ofNat ('0'.toNat + n) else Char.ofNat ('a'.toNat + (n - 10))

/-- A character inside a quoted string. -/
def escape (c : Char) : List Char :=
  match c with
  | '"' => ['\\', '"']
  | '\\' => ['\\', '\\']
  | '\n' => ['\\', 'n']
  | '\r' => ['\\', 'r']
  | '\t' => ['\\', 't']
  | c =>
    let n := c.toNat
    if n = 8 then ['\\', 'b']
    else if n = 12 then ['\\', 'f']
    else if n < 32 then ['\\', 'u', '0', '0', hexChar (n / 16), hexChar (n % 16)]
    else [c]

/-- A quoted string. -/
def quote (s : String) : List Char := '"' :: (s.toList.flatMap escape ++ ['"'])

/-- An integer in decimal. -/
def writeInt (n : Int) : List Char :=
  if n < 0 then '-' :: Nat.toDigits 10 n.natAbs else Nat.toDigits 10 n.natAbs

/-- A double; `null` if it is not finite. -/
def writeFloat (x : Binary64) : List Char :=
  if x.isFinite then NumberLayout.json.write x else ['n', 'u', 'l', 'l']

mutual

/-- The compact text of a document. -/
def write : Json → List Char
  | null => ['n', 'u', 'l', 'l']
  | boolean true => ['t', 'r', 'u', 'e']
  | boolean false => ['f', 'a', 'l', 's', 'e']
  | integer n => writeInt n
  | float x => writeFloat x
  | string s => quote s
  | array items => '[' :: (writeItems items ++ [']'])
  | object members => '{' :: (writeMembers members ++ ['}'])

/-- Items separated by commas. -/
def writeItems : List Json → List Char
  | [] => []
  | [j] => write j
  | j :: js => write j ++ ',' :: writeItems js

/-- Members separated by commas. -/
def writeMembers : List (String × Json) → List Char
  | [] => []
  | [(k, j)] => quote k ++ ':' :: write j
  | (k, j) :: ms => quote k ++ ':' :: (write j ++ ',' :: writeMembers ms)

end

/-- The compact text of a document, as a string. -/
def compact (j : Json) : String := String.ofList j.write

end Json

end TreeSift
