import TreeSift.Number.Range
import TreeSift.Json.Read
import TreeSift.Settings.Basic

/-!
# TreeSift.Settings.Json5

Settings written in JSON5.

1. Comments may stand between tokens, and a comma may follow the last item or member.
2. Keys may be names.  Strings have either quote; a backslash before a line break leaves no trace.
3. Numbers may have a sign, be in base sixteen, or lack digits on one side of the point.  One
   without point and exponent is whole and has 64 bits.
-/

namespace TreeSift

namespace Json5

/-- A line break. -/
def isBreak (c : Char) : Bool := c == '\n' || c == '\r' || c == '\u2028' || c == '\u2029'

/-- A blank between tokens. -/
def isBlank (c : Char) : Bool := c == '\ufeff' || (CharClass.isBlank c && c != '\u0085')

/-- The text after a comment of several lines. -/
def afterBlockComment? : List Char → Option (List Char)
  | [] => none
  | '*' :: '/' :: r => some r
  | _ :: r => afterBlockComment? r

/-- The text after blanks and comments. -/
def skipGap? : Nat → List Char → Option (List Char)
  | 0, cs => some cs
  | fuel + 1, cs =>
    match cs.dropWhile isBlank with
    | '/' :: '/' :: r => skipGap? fuel (r.dropWhile fun c => !isBreak c)
    | '/' :: '*' :: r => (afterBlockComment? r).bind (skipGap? fuel)
    | r => some r

/-- The text after blanks and comments, however many there are. -/
def skip? (cs : List Char) : Option (List Char) := skipGap? (cs.length + 1) cs

/-! ## Strings -/

/-- The characters that an escape stands for, after its backslash. -/
def readEscape? : List Char → Option (List Char × List Char)
  | [] => none
  | '\r' :: '\n' :: r => some ([], r)
  | 'u' :: r => (Json.readUnits? r).map fun (c, r) => ([c], r)
  | 'x' :: a :: b :: r => do
    let x ← CharSet.hexDigit? a
    let y ← CharSet.hexDigit? b
    some ([Char.ofNat (x * 16 + y)], r)
  | c :: r =>
    if isBreak c then some ([], r)
    else
      match c with
      | '0' => if (r.head?.map Char.isDigit).getD false then none else some (['\x00'], r)
      | 'b' => some (['\x08'], r)
      | 'f' => some (['\x0c'], r)
      | 'n' => some (['\n'], r)
      | 'r' => some (['\r'], r)
      | 't' => some (['\t'], r)
      | 'v' => some (['\x0b'], r)
      | 'x' => none
      | c => if c.isDigit then none else some ([c], r)

/-- A string after its opening quote; `seen` holds its characters so far, last first. -/
def readString? (quote : Char) : Nat → List Char → List Char → Option (String × List Char)
  | 0, _, _ => none
  | fuel + 1, seen, cs =>
    match cs with
    | [] => none
    | c :: r =>
      if c = quote then some (String.ofList seen.reverse, r)
      else if c = '\\' then
        match readEscape? r with
        | some (ds, r) => readString? quote fuel (ds.reverse ++ seen) r
        | none => none
      else if c = '\n' ∨ c = '\r' then none
      else readString? quote fuel (c :: seen) r

/-! ## Numbers -/

/-- Digits and an optional exponent, as text that reads as a number. -/
def numberText (cs : List Char) : List Char × List Char :=
  let whole := cs.takeWhile Char.isDigit
  let r := cs.drop whole.length
  let (fraction, r) := match r with
    | '.' :: r => ('.' :: r.takeWhile Char.isDigit, r.dropWhile Char.isDigit)
    | r => ([], r)
  let exponent := fun (e : Char) (sign : List Char) (r : List Char) =>
    let ds := r.takeWhile Char.isDigit
    (whole ++ fraction ++ e :: (sign ++ ds), r.drop ds.length)
  match r with
  | 'e' :: '+' :: r => exponent 'e' ['+'] r
  | 'e' :: '-' :: r => exponent 'e' ['-'] r
  | 'e' :: r => exponent 'e' [] r
  | 'E' :: '+' :: r => exponent 'e' ['+'] r
  | 'E' :: '-' :: r => exponent 'e' ['-'] r
  | 'E' :: r => exponent 'e' [] r
  | r => (whole ++ fraction, r)

/-- A whole number of 64 bits. -/
def whole? (negative : Bool) (n : Nat) : Option Setting :=
  let i : Int := if negative then -(n : Int) else n
  if Number.IsSigned64 i then some (.integer i) else none

/-- Whether a decimal number has no digit that a zero leads. -/
def isWellLed : List Char → Bool
  | '0' :: d :: _ => !d.isDigit
  | _ => true

/-- A number without its sign. -/
def readUnsigned? (negative : Bool) (cs : List Char) : Option (Setting × List Char) :=
  match Json.dropWord? "Infinity".toList cs, Json.dropWord? "NaN".toList cs, cs with
  | some r, _, _ => some (.double (Binary64.infinity negative), r)
  | _, some r, _ => some (.double .nan, r)
  | _, _, '0' :: x :: r =>
    if x = 'x' ∨ x = 'X' then
      let ds := r.takeWhile fun c => (CharSet.hexDigit? c).isSome
      ((Number.readBase? 16 ds).bind (whole? negative)).map fun s => (s, r.drop ds.length)
    else decimal? ('0' :: x :: r)
  | _, _, cs => decimal? cs
where
  /-- A decimal number. -/
  decimal? (cs : List Char) : Option (Setting × List Char) :=
    let (text, r) := numberText cs
    if !isWellLed text then none
    else if text.all Char.isDigit then
      ((Number.readBase? 10 text).bind (whole? negative)).map fun s => (s, r)
    else (Number.readUnsigned? negative text).map fun x => (.double x, r)

/-- A number. -/
def readNumber? (cs : List Char) : Option (Setting × List Char) :=
  match cs with
  | '+' :: r => readUnsigned? false r
  | '-' :: r => readUnsigned? true r
  | r => readUnsigned? false r

/-! ## Values -/

/-- A character that a name starts with. -/
def startsName (c : Char) : Bool := CharClass.isAlphabetic c || c == '$' || c == '_'

/-- A character of a name. -/
def isNameChar (c : Char) : Bool :=
  startsName c || CharClass.isNumeric c || c == '\u200c' || c == '\u200d'

/-- The key of a member. -/
def readKey? (cs : List Char) : Option (String × List Char) :=
  match cs with
  | '"' :: r => readString? '"' (r.length + 1) [] r
  | '\'' :: r => readString? '\'' (r.length + 1) [] r
  | c :: r =>
    if startsName c then
      let more := r.takeWhile isNameChar
      some (String.ofList (c :: more), r.drop more.length)
    else none
  | [] => none

mutual

/-- A value, blanks and comments before it included. -/
def readValue? : Nat → List Char → Option (Setting × List Char)
  | 0, _ => none
  | fuel + 1, cs => do
    let cs ← skip? cs
    match cs with
    | '[' :: r => (readItems? fuel r).map fun (ss, r) => (.list ss, r)
    | '{' :: r => (readMembers? fuel r).map fun (es, r) => (.ofEntries es, r)
    | '"' :: r => (readString? '"' (r.length + 1) [] r).map fun (s, r) => (.text s, r)
    | '\'' :: r => (readString? '\'' (r.length + 1) [] r).map fun (s, r) => (.text s, r)
    | 'n' :: 'u' :: 'l' :: 'l' :: r => some (.nothing, r)
    | 't' :: 'r' :: 'u' :: 'e' :: r => some (.boolean true, r)
    | 'f' :: 'a' :: 'l' :: 's' :: 'e' :: r => some (.boolean false, r)
    | cs => readNumber? cs

/-- The items of a list after its bracket or a comma. -/
def readItems? : Nat → List Char → Option (List Setting × List Char)
  | 0, _ => none
  | fuel + 1, cs => do
    match ← skip? cs with
    | ']' :: r => return ([], r)
    | r =>
      let (s, r) ← readValue? fuel r
      match ← skip? r with
      | ',' :: r =>
        let (ss, r) ← readItems? fuel r
        return (s :: ss, r)
      | ']' :: r => return ([s], r)
      | _ => none

/-- The members of a table after its brace or a comma. -/
def readMembers? : Nat → List Char → Option (List (String × Setting) × List Char)
  | 0, _ => none
  | fuel + 1, cs => do
    match ← skip? cs with
    | '}' :: r => return ([], r)
    | r =>
      let (k, r) ← readKey? r
      match ← skip? r with
      | ':' :: r =>
        let (s, r) ← readValue? fuel r
        match ← skip? r with
        | ',' :: r =>
          let (es, r) ← readMembers? fuel r
          return ((k, s) :: es, r)
        | '}' :: r => return ([(k, s)], r)
        | _ => none
      | _ => none

end

end Json5

namespace Setting

/-- The settings of a JSON5 text. -/
def ofJson5? (text : List Char) : Option Setting := do
  let (s, r) ← Json5.readValue? (2 * text.length + 2) text
  if (← Json5.skip? r).isEmpty then some s else none

end Setting

end TreeSift
