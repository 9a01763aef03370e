import TreeSift.Json.Number
import TreeSift.Text.CharSet

/-!
# TreeSift.Json.Read

Reading JSON text.

1. Blanks are space, tab, line feed and carriage return; nothing but blanks may follow the document.
2. A string holds no raw control character, and its escapes for UTF-16 units come in proper pairs.
3. Arrays and objects nest at most 127 deep.
-/

namespace TreeSift

namespace Json

/-- A blank between tokens. -/
def isBlank (c : Char) : Bool := c == ' ' || c == '\t' || c == '\n' || c == '\r'

/-- The text without the blanks in front. -/
def skipBlanks (cs : List Char) : List Char := cs.dropWhile isBlank

/-- Four hexadecimal digits. -/
def readHex4? : List Char → Option (Nat × List Char)
  | a :: b :: c :: d :: r => do
    let a ← CharSet.hexDigit? a
    let b ← CharSet.hexDigit? b
    let c ← CharSet.hexDigit? c
    let d ← CharSet.hexDigit? d
    some (((a * 16 + b) * 16 + c) * 16 + d, r)
  | _ => none

/-- The character an escape of one letter stands for. -/
def simpleEscape? (c : Char) : Option Char :=
  match c with
  | '"' => some '"'
  | '\\' => some '\\'
  | '/' => some '/'
  | 'b' => some '\x08'
  | 'f' => some '\x0c'
  | 'n' => some '\n'
  | 'r' => some '\r'
  | 't' => some '\t'
  | _ => none

/-- The character that one UTF-16 unit or a pair of them stands for, after the first `\u`. -/
def readUnits? (cs : List Char) : Option (Char × List Char) := do
  let (n, r) ← readHex4? cs
  if 0xDC00 ≤ n ∧ n ≤ 0xDFFF then none
  else if 0xD800 ≤ n ∧ n ≤ 0xDBFF then
    match r with
    | '\\' :: 'u' :: r =>
      let (m, r) ← readHex4? r
      if 0xDC00 ≤ m ∧ m ≤ 0xDFFF then
        some (Char.ofNat (0x10000 + (n - 0xD800) * 0x400 + (m - 0xDC00)), r)
      else none
    | _ => none
  else some (Char.ofNat n, r)

/-- The rest of a string up to its closing quote; `seen` holds the characters before, last first. -/
def readString? : Nat → List Char → List Char → Option (String × List Char)
  | 0, _, _ => none
  | fuel + 1, seen, cs =>
    match cs with
    | [] => none
    | '"' :: r => some (String.ofList seen.reverse, r)
    | '\\' :: 'u' :: r => (readUnits? r).bind fun (c, r) => readString? fuel (c :: seen) r
    | '\\' :: e :: r => (simpleEscape? e).bind fun c => readString? fuel (c :: seen) r
    | c :: r => if c.toNat < 32 ∨ c = '\\' then none else readString? fuel (c :: seen) r

/-- A string after its opening quote. -/
def readQuoted? (cs : List Char) : Option (String × List Char) := readString? (cs.length + 1) [] cs

/-- The text after a given word. -/
def dropWord? : List Char → List Char → Option (List Char)
  | [], cs => some cs
  | _ :: _, [] => none
  | w :: ws, c :: cs => if w = c then dropWord? ws cs else none

mutual

/-- A document at the start of the text, blanks before it included. -/
def readValue? : Nat → Nat → List Char → Option (Json × List Char)
  | 0, _, _ => none
  | fuel + 1, depth, cs =>
    match skipBlanks cs with
    | [] => none
    | 'n' :: r => (dropWord? ['u', 'l', 'l'] r).map fun r => (null, r)
    | 't' :: r => (dropWord? ['r', 'u', 'e'] r).map fun r => (boolean true, r)
    | 'f' :: r => (dropWord? ['a', 'l', 's', 'e'] r).map fun r => (boolean false, r)
    | '"' :: r => (readQuoted? r).map fun (s, r) => (string s, r)
    | '[' :: r =>
      match depth with
      | 0 => none
      | depth + 1 =>
        match skipBlanks r with
        | ']' :: r => some (array [], r)
        | r => (readItems? fuel depth [] r).map fun (items, r) => (array items, r)
    | '{' :: r =>
      match depth with
      | 0 => none
      | depth + 1 =>
        match skipBlanks r with
        | '}' :: r => some (object [], r)
        | r => (readMembers? fuel depth [] r).map fun (ms, r) => (object (ofMembers ms), r)
    | r => readNumber? r

/-- The items of an array up to its end; `seen` holds the items before, last first. -/
def readItems? : Nat → Nat → List Json → List Char → Option (List Json × List Char)
  | 0, _, _, _ => none
  | fuel + 1, depth, seen, cs =>
    match readValue? fuel depth cs with
    | none => none
    | some (j, r) =>
      match skipBlanks r with
      | ',' :: r => readItems? fuel depth (j :: seen) r
      | ']' :: r => some ((j :: seen).reverse, r)
      | _ => none

/-- The members of an object up to its end; `seen` holds the members before, last first. -/
def readMembers? : Nat → Nat → List (String × Json) → List Char →
    Option (List (String × Json) × List Char)
  | 0, _, _, _ => none
  | fuel + 1, depth, seen, cs =>
    match skipBlanks cs with
    | '"' :: r =>
      match readQuoted? r with
      | none => none
      | some (k, r) =>
        match skipBlanks r with
        | ':' :: r =>
          match readValue? fuel depth r with
          | none => none
          | some (j, r) =>
            match skipBlanks r with
            | ',' :: r => readMembers? fuel depth ((k, j) :: seen) r
            | '}' :: r => some (((k, j) :: seen).reverse, r)
            | _ => none
        | _ => none
    | _ => none

end

/-- The deepest nesting of arrays and objects. -/
def maxDepth : Nat := 127

/-- The document a text denotes, if it nests no deeper than the given depth. -/
def readNested? (depth : Nat) (text : List Char) : Option Json :=
  match readValue? (2 * text.length + 2) depth text with
  | some (j, r) => if (skipBlanks r).isEmpty then some j else none
  | none => none

/-- The document a text denotes. -/
def read? (text : List Char) : Option Json := readNested? maxDepth text

end Json

end TreeSift
