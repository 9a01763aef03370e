import TreeSift.Number.Range
import TreeSift.Json.Read
import TreeSift.Settings.Basic

/-!
# TreeSift.Settings.Ron

Settings written as records.

1. A value is a truth value, a number, a character, a string, a list in brackets, a map in braces, or
   a record or tuple in parentheses, which may have a name in front.
2. Comments may stand between tokens, and a comma may follow the last item or member.
3. `Some(v)` is `v`, and `None` and `()` are nothing.  The keys of a map are scalars.
-/

namespace TreeSift

namespace Ron

/-- The text after a comment of several lines, so many of which are open. -/
def afterBlockComment? : Nat → List Char → Option (List Char)
  | _, [] => none
  | open', '/' :: '*' :: r => afterBlockComment? (open' + 1) r
  | open', '*' :: '/' :: r => if open' ≤ 1 then some r else afterBlockComment? (open' - 1) r
  | open', _ :: r => afterBlockComment? open' r

/-- The text after blanks and comments. -/
def skipGap? : Nat → List Char → Option (List Char)
  | 0, cs => some cs
  | fuel + 1, cs =>
    match cs.dropWhile CharClass.isBlank with
    | '/' :: '/' :: r => skipGap? fuel (r.dropWhile (· != '\n'))
    | '/' :: '*' :: r => (afterBlockComment? 1 r).bind (skipGap? fuel)
    | r => some r

/-- The text after blanks and comments, however many there are. -/
def skip? (cs : List Char) : Option (List Char) := skipGap? (cs.length + 1) cs

/-! ## Texts -/

/-- An escape after its backslash. -/
def readEscape? : List Char → Option (Char × List Char)
  | 'u' :: '{' :: r =>
    let ds := r.takeWhile (· != '}')
    if ds.length ≤ 6 then
      ((Number.readBase? 16 ds).bind CharSet.scalar?).map fun c => (c, r.drop (ds.length + 1))
    else none
  | 'x' :: a :: b :: r => do
    let x ← CharSet.hexDigit? a
    let y ← CharSet.hexDigit? b
    some (Char.ofNat (x * 16 + y), r)
  | c :: r =>
    match c with
    | '\'' => some ('\'', r)
    | '"' => some ('"', r)
    | '\\' => some ('\\', r)
    | 'n' => some ('\n', r)
    | 'r' => some ('\r', r)
    | 't' => some ('\t', r)
    | '0' => some ('\x00', r)
    | _ => none
  | [] => none

/-- A string after its quote; `seen` holds its characters so far, last first. -/
def readString? : Nat → List Char → List Char → Option (String × List Char)
  | 0, _, _ => none
  | fuel + 1, seen, cs =>
    match cs with
    | [] => none
    | '"' :: r => some (String.ofList seen.reverse, r)
    | '\\' :: r =>
      match readEscape? r with
      | some (c, r) => readString? fuel (c :: seen) r
      | none => none
    | c :: r => readString? fuel (c :: seen) r

/-- A raw string after its quote, which ends at a quote and so many hashes. -/
def readRaw? (hashes : Nat) (seen : List Char) : List Char → Option (String × List Char)
  | [] => none
  | c :: r =>
    if c = '"' ∧ r.take hashes = List.replicate hashes '#' then
      some (String.ofList seen.reverse, r.drop hashes)
    else readRaw? hashes (c :: seen) r

/-- A raw string after its letter. -/
def readRawString? (cs : List Char) : Option (String × List Char) :=
  let hashes := (cs.takeWhile (· == '#')).length
  match cs.drop hashes with
  | '"' :: r => readRaw? hashes [] r
  | _ => none

/-- A character after its quote. -/
def readChar? (cs : List Char) : Option (String × List Char) :=
  let closed := fun (c : Char) (r : List Char) =>
    match r with
    | '\'' :: r => some (String.ofList [c], r)
    | _ => none
  match cs with
  | '\\' :: r => (readEscape? r).bind fun (c, r) => closed c r
  | c :: r => closed c r
  | [] => none

/-! ## Numbers -/

/-- A character of a number. -/
def isNumberChar (c : Char) : Bool := c.isAlphanum || c == '_' || c == '.' || c == '+' || c == '-'

/-- The digits of a base, with underscores among them. -/
def based? (base : Nat) (ds : List Char) : Option Nat :=
  if ds.head? = some '_' then none else Number.readBase? base (ds.filter (· != '_'))

/-- A number of at most 64 bits, or a double. -/
def readNumber? (cs : List Char) : Option (Setting × List Char) :=
  let word := cs.takeWhile isNumberChar
  let rest := cs.drop word.length
  let (negative, digits) := match word with
    | '-' :: r => (true, r)
    | '+' :: r => (false, r)
    | r => (false, r)
  let whole? := match digits with
    | '0' :: 'x' :: r => based? 16 r
    | '0' :: 'o' :: r => based? 8 r
    | '0' :: 'b' :: r => based? 2 r
    | r => based? 10 r
  match whole? with
  | some n =>
    let i : Int := if negative then -(n : Int) else n
    if Number.IsEither64 i then some (.integer i, rest) else none
  | none =>
    if digits = "inf".toList then some (.double (Binary64.infinity negative), rest)
    else if digits = "NaN".toList then some (.double .nan, rest)
    else if (digits.head?.map fun c => c.isDigit || c == '.').getD false then
      (Number.readUnsigned? negative (digits.filter (· != '_'))).map fun x => (.double x, rest)
    else none

/-! ## Values -/

/-- A character of a name. -/
def isNameChar (c : Char) : Bool := CharClass.isAlphanumeric c || c == '_'

/-- A character that a name starts with. -/
def startsName (c : Char) : Bool := CharClass.isAlphabetic c || c == '_'

/-- The name of a member and the text after its colon, if a member comes first. -/
def readField? (cs : List Char) : Option (String × List Char) :=
  match cs with
  | c :: _ =>
    if startsName c then
      let name := cs.takeWhile isNameChar
      match skip? (cs.drop name.length) with
      | some (':' :: r) => some (String.ofList name, r)
      | _ => none
    else none
  | [] => none

mutual

/-- A value, blanks and comments before it included. -/
def readValue? : Nat → List Char → Option (Setting × List Char)
  | 0, _ => none
  | fuel + 1, cs => do
    let cs ← skip? cs
    match cs with
    | '[' :: r => (readItems? ']' fuel r).map fun (ss, r) => (.list ss, r)
    | '{' :: r => (readPairs? fuel r).map fun (es, r) => (.ofEntries es, r)
    | '(' :: r => readBody? fuel r
    | '"' :: r => (readString? (r.length + 1) [] r).map fun (s, r) => (.text s, r)
    | 'r' :: '"' :: r => (readRawString? ('"' :: r)).map fun (s, r) => (.text s, r)
    | 'r' :: '#' :: r => (readRawString? ('#' :: r)).map fun (s, r) => (.text s, r)
    | '\'' :: r => (readChar? r).map fun (s, r) => (.text s, r)
    | c :: r =>
      if startsName c && !(c == 'i' && r.take 2 == ['n', 'f']) then
        let name := String.ofList (cs.takeWhile isNameChar)
        let after := cs.dropWhile isNameChar
        if name == "true" then some (.boolean true, after)
        else if name == "false" then some (.boolean false, after)
        else if name == "None" then some (.nothing, after)
        else if name == "NaN" then some (.double .nan, after)
        else
          match ← skip? after with
          | '(' :: r =>
            if name == "Some" then
              let (s, r) ← readValue? fuel r
              match ← skip? r with
              | ')' :: r => some (s, r)
              | ',' :: r =>
                match ← skip? r with
                | ')' :: r => some (s, r)
                | _ => none
              | _ => none
            else readBody? fuel r
          | _ => some (.nothing, after)
      else readNumber? cs
    | [] => none

/-- A record or a tuple after its parenthesis. -/
def readBody? : Nat → List Char → Option (Setting × List Char)
  | 0, _ => none
  | fuel + 1, cs => do
    let cs ← skip? cs
    match cs with
    | ')' :: r => some (.nothing, r)
    | cs =>
      if (readField? cs).isSome then
        (readFields? fuel cs).map fun (es, r) => (.ofEntries es, r)
      else (readItems? ')' fuel cs).map fun (ss, r) => (.list ss, r)

/-- Items up to a closing sign. -/
def readItems? (close : Char) : Nat → List Char → Option (List Setting × List Char)
  | 0, _ => none
  | fuel + 1, cs => do
    let cs ← skip? cs
    if cs.head? = some close then return ([], cs.drop 1)
    let (s, r) ← readValue? fuel cs
    let r ← skip? r
    if r.head? = some close then return ([s], r.drop 1)
    match r with
    | ',' :: r =>
      let (ss, r) ← readItems? close fuel r
      return (s :: ss, r)
    | _ => none

/-- The members of a record up to its parenthesis. -/
def readFields? : Nat → List Char → Option (List (String × Setting) × List Char)
  | 0, _ => none
  | fuel + 1, cs => do
    match ← skip? cs with
    | ')' :: r => return ([], r)
    | r =>
      let (k, r) ← readField? r
      let (s, r) ← readValue? fuel r
      match ← skip? r with
      | ',' :: r =>
        let (es, r) ← readFields? fuel r
        return ((k, s) :: es, r)
      | ')' :: r => return ([(k, s)], r)
      | _ => none

/-- The members of a map up to its brace. -/
def readPairs? : Nat → List Char → Option (List (String × Setting) × List Char)
  | 0, _ => none
  | fuel + 1, cs => do
    match ← skip? cs with
    | '}' :: r => return ([], r)
    | r =>
      let (key, r) ← readValue? fuel r
      let k ← key.asText?
      match ← skip? r with
      | ':' :: r =>
        let (s, r) ← readValue? fuel r
        match ← skip? r with
        | ',' :: r =>
          let (es, r) ← readPairs? fuel r
          return ((k, s) :: es, r)
        | '}' :: r => return ([(k, s)], r)
        | _ => none
      | _ => none

end

end Ron

namespace Setting

/-- The settings of a text of records. -/
def ofRon? (text : List Char) : Option Setting := do
  let (s, r) ← Ron.readValue? (3 * text.length + 3) text
  if (← Ron.skip? r).isEmpty then some s else none

end Setting

end TreeSift
