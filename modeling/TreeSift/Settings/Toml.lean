import TreeSift.Number.Range
import TreeSift.Settings.Basic
import TreeSift.Settings.TomlDate
import TreeSift.Text.CharSet

/-!
# TreeSift.Settings.Toml

Settings written in TOML.

1. Every line holds an entry, the head of a table, or nothing; a comment may end it.
2. A dotted key makes tables on its way.  A table is made by one head or by dotted keys, and by no
   more than that; heads of double brackets add a table to a list each time.
3. Whole numbers have 64 bits.  Dates and times are kept as text.
-/

namespace TreeSift

namespace Toml

/-! ## Open tables -/

/-- How a table came about. -/
inductive Origin where
  /-- On the way to another table. -/
  | implied
  /-- By a head of its own. -/
  | head
  /-- By dotted keys. -/
  | dotted
deriving DecidableEq

/-- What a key of a table that is still open stands for. -/
inductive Item where
  | value (s : Setting)
  | table (origin : Origin) (entries : List (String × Item))
  /-- A list of tables, the last one first. -/
  | tables (items : List (List (String × Item)))

/-- The entries of an open table. -/
abbrev Entries := List (String × Item)

/-- What a key stands for. -/
def find? (key : String) (es : Entries) : Option Item :=
  (es.find? fun e => e.1 == key).map Prod.snd

/-- Sets what a key stands for. -/
def set (key : String) (item : Item) (es : Entries) : Entries := Json.insert es key item

mutual

/-- An item as a setting. -/
def Item.close : Item → Setting
  | .value s => s
  | .table _ es => .table (closeEntries es)
  | .tables items => .list (closeTables items).reverse

/-- Entries as settings. -/
def closeEntries : List (String × Item) → List (String × Setting)
  | [] => []
  | (k, i) :: es => (k, i.close) :: closeEntries es

/-- Tables as settings. -/
def closeTables : List (List (String × Item)) → List Setting
  | [] => []
  | es :: ts => .table (closeEntries es) :: closeTables ts

end

/-- Changes the table that a path of names leads to, making tables of the given origin on the way;
`dotted` says that only such tables may be gone through. -/
def within? (dotted : Bool) (f : Entries → Option Entries) : List String → Entries → Option Entries
  | [], es => f es
  | key :: path, es =>
    match find? key es with
    | none => do
      let inner ← within? dotted f path []
      return set key (.table (if dotted then .dotted else .implied) inner) es
    | some (.table origin inner) =>
      if dotted && origin != .dotted then none
      else do
        let inner ← within? dotted f path inner
        return set key (.table origin inner) es
    | some (.tables (last :: others)) =>
      if dotted then none
      else do
        let last ← within? dotted f path last
        return set key (.tables (last :: others)) es
    | _ => none

/-- Adds an entry. -/
def addValue? (path : List String) (s : Setting) (es : Entries) : Option Entries :=
  match path.getLast? with
  | none => none
  | some key =>
    within? true (fun es => if (find? key es).isSome then none else some (set key (.value s) es))
      path.dropLast es

/-- Adds the table of a head. -/
def addTable? (path : List String) (es : Entries) : Option Entries :=
  match path.getLast? with
  | none => none
  | some key =>
    within? false (fun es =>
      match find? key es with
      | none => some (set key (.table .head []) es)
      | some (.table .implied inner) => some (set key (.table .head inner) es)
      | _ => none) path.dropLast es

/-- Adds a table to the list of a head. -/
def addToList? (path : List String) (es : Entries) : Option Entries :=
  match path.getLast? with
  | none => none
  | some key =>
    within? false (fun es =>
      match find? key es with
      | none => some (set key (.tables [[]]) es)
      | some (.tables ts) => some (set key (.tables ([] :: ts)) es)
      | _ => none) path.dropLast es

/-- Changes the table of the last head. -/
def current? (f : Entries → Option Entries) : List String → Entries → Option Entries
  | [], es => f es
  | key :: path, es =>
    match find? key es with
    | some (.table origin inner) => do
      let inner ← current? f path inner
      return set key (.table origin inner) es
    | some (.tables (last :: others)) => do
      let last ← current? f path last
      return set key (.tables (last :: others)) es
    | _ => none

/-! ## Texts -/

/-- Space or tab. -/
def isGap (c : Char) : Bool := c == ' ' || c == '\t'

/-- The text without the blanks at its start. -/
def skipGap (cs : List Char) : List Char := cs.dropWhile isGap

/-- A control character that may not stand anywhere. -/
def isForbidden (c : Char) : Bool := (c.toNat < 32 && c != '\t') || c.toNat == 127

/-- The text after a line break. -/
def afterBreak? : List Char → Option (List Char)
  | '\n' :: r => some r
  | '\r' :: '\n' :: r => some r
  | _ => none

/-- The text after a comment, if there is one. -/
def skipComment? (cs : List Char) : Option (List Char) :=
  match cs with
  | '#' :: r =>
    let (comment, rest) := r.span fun c => c != '\n' && c != '\r'
    if comment.any isForbidden then none else some rest
  | r => some r

/-- The text after blanks, comments and line breaks. -/
def skipLines? : Nat → List Char → Option (List Char)
  | 0, cs => some cs
  | fuel + 1, cs => do
    let r ← skipComment? (skipGap cs)
    match afterBreak? r with
    | some r => skipLines? fuel r
    | none => return r

/-- The text after the end of a line. -/
def endLine? (cs : List Char) : Option (List Char) := do
  let r ← skipComment? (skipGap cs)
  if r.isEmpty then some [] else afterBreak? r

/-- An escape after its backslash. -/
def readEscape? : List Char → Option (Char × List Char)
  | [] => none
  | c :: r =>
    let coded := fun (width : Nat) =>
      let ds := r.take width
      if ds.length = width then
        ((Number.readBase? 16 ds).bind CharSet.scalar?).map fun c => (c, r.drop width)
      else none
    match c with
    | 'b' => some ('\x08', r)
    | 't' => some ('\t', r)
    | 'n' => some ('\n', r)
    | 'f' => some ('\x0c', r)
    | 'r' => some ('\r', r)
    | 'e' => some ('\x1b', r)
    | '"' => some ('"', r)
    | '\\' => some ('\\', r)
    | 'x' => coded 2
    | 'u' => coded 4
    | 'U' => coded 8
    | _ => none

/-- A string of one line after its quote; `seen` holds its characters so far, last first. -/
def readLine? (quote : Char) : Nat → List Char → List Char → Option (String × List Char)
  | 0, _, _ => none
  | fuel + 1, seen, cs =>
    match cs with
    | [] => none
    | c :: r =>
      if c = quote then some (String.ofList seen.reverse, r)
      else if c = '\\' ∧ quote = '"' then
        match readEscape? r with
        | some (d, r) => readLine? quote fuel (d :: seen) r
        | none => none
      else if isForbidden c then none
      else readLine? quote fuel (c :: seen) r

/-- A string of several lines after its three quotes. -/
def readLines? (quote : Char) : Nat → List Char → List Char → Option (String × List Char)
  | 0, _, _ => none
  | fuel + 1, seen, cs =>
    match cs with
    | [] => none
    | c :: r =>
      if c = quote then
        let run := (cs.takeWhile (· == quote)).length
        if run < 3 then readLines? quote fuel (c :: seen) r
        else if 5 < run then none
        else
          some (String.ofList (seen.reverse ++ List.replicate (run - 3) quote), cs.drop run)
      else if c = '\\' ∧ quote = '"' then
        if (afterBreak? (skipGap r)).isSome then
          readLines? quote fuel seen
            (r.dropWhile fun c => isGap c || c == '\n' || c == '\r')
        else
          match readEscape? r with
          | some (d, r) => readLines? quote fuel (d :: seen) r
          | none => none
      else
        match afterBreak? cs with
        | some r => readLines? quote fuel ('\n' :: seen) r
        | none => if isForbidden c then none else readLines? quote fuel (c :: seen) r

/-- A string with its quotes. -/
def readString? (cs : List Char) : Option (String × List Char) :=
  let read := fun (quote : Char) =>
    if cs.take 3 = [quote, quote, quote] then
      let r := cs.drop 3
      readLines? quote (cs.length + 1) [] ((afterBreak? r).getD r)
    else readLine? quote (cs.length + 1) [] (cs.drop 1)
  match cs with
  | '"' :: _ => read '"'
  | '\'' :: _ => read '\''
  | _ => none

/-! ## Keys -/

/-- A character of a bare key. -/
def isBare (c : Char) : Bool := c.isAlphanum || c == '_' || c == '-'

/-- One name of a key. -/
def readName? (cs : List Char) : Option (String × List Char) :=
  match cs with
  | '"' :: r => readLine? '"' (cs.length + 1) [] r
  | '\'' :: r => readLine? '\'' (cs.length + 1) [] r
  | cs =>
    let name := cs.takeWhile isBare
    if name.isEmpty then none else some (String.ofList name, cs.drop name.length)

/-- A key: names with dots between them, and the text after the blanks behind it. -/
def readKey? : Nat → List Char → Option (List String × List Char)
  | 0, _ => none
  | fuel + 1, cs => do
    let (name, r) ← readName? (skipGap cs)
    match skipGap r with
    | '.' :: r =>
      let (names, r) ← readKey? fuel r
      return (name :: names, r)
    | r => return ([name], r)

/-! ## Numbers -/

/-- The digits of a number, in which underscores stand between digits only. -/
def readDigits? (isDigit : Char → Bool) (cs : List Char) : Option (List Char) :=
  let pieces := Text.splitAt '_' cs
  if pieces.all fun p => !p.isEmpty && p.all isDigit then some pieces.flatten else none

/-- A whole number without its sign. -/
def readWhole? (cs : List Char) : Option Nat := do
  let ds ← readDigits? Char.isDigit cs
  match ds with
  | '0' :: _ :: _ => none
  | ds => return Number.digitsValue ds

/-- A number in a base. -/
def readBased? (base : Nat) (isDigit : Char → Bool) (cs : List Char) : Option Setting := do
  let n ← Number.readBase? base (← readDigits? isDigit cs)
  if Number.IsSigned64 n then some (.integer n) else none

/-- A double with a point or an exponent, without its sign. -/
def readDouble? (negative : Bool) (cs : List Char) : Option Binary64 := do
  let (whole, r) := cs.span fun c => c != '.' && c != 'e' && c != 'E'
  discard (readWhole? whole)
  let (fraction, exponent) := match r with
    | '.' :: r => r.span fun c => c != 'e' && c != 'E'
    | r => (['0'], r)
  discard (readDigits? Char.isDigit fraction)
  match exponent with
  | [] => pure ()
  | _ :: '+' :: r => discard (readDigits? Char.isDigit r)
  | _ :: '-' :: r => discard (readDigits? Char.isDigit r)
  | _ :: r => discard (readDigits? Char.isDigit r)
  let x ← Number.readUnsigned? negative (cs.filter (· != '_'))
  if x.isFinite then some x else none

/-- A number. -/
def readNumber? (cs : List Char) : Option Setting :=
  let signed := fun (negative : Bool) (r : List Char) =>
    if r = "inf".toList then some (Setting.double (Binary64.infinity negative))
    else if r = "nan".toList then some (.double .nan)
    else if r.any fun c => c == '.' || c == 'e' || c == 'E' then
      (readDouble? negative r).map .double
    else
      match readWhole? r with
      | some n =>
        let i : Int := if negative then -(n : Int) else n
        if Number.IsSigned64 i then some (.integer i) else none
      | none => none
  match cs with
  | '0' :: 'x' :: r => readBased? 16 (fun c => (CharSet.hexDigit? c).isSome) r
  | '0' :: 'o' :: r => readBased? 8 (fun c => '0' ≤ c && c ≤ '7') r
  | '0' :: 'b' :: r => readBased? 2 (fun c => c == '0' || c == '1') r
  | '+' :: r => signed false r
  | '-' :: r => signed true r
  | r => signed false r

/-- A character of a value that has no quotes or brackets. -/
def isWordChar (c : Char) : Bool :=
  c.isAlphanum || c == '_' || c == '+' || c == '-' || c == '.' || c == ':'

/-- A truth value, a date or a number. -/
def readWord? (cs : List Char) : Option (Setting × List Char) :=
  let word := cs.takeWhile isWordChar
  let rest := cs.drop word.length
  if word = "true".toList then some (.boolean true, rest)
  else if word = "false".toList then some (.boolean false, rest)
  else
    match TomlDate.read? cs with
    | some (date, rest) =>
      if (rest.head?.map isWordChar).getD false then none
      else some (.text (String.ofList date), rest)
    | none => (readNumber? word).map fun s => (s, rest)

/-! ## Values -/

mutual

/-- A value. -/
def readValue? : Nat → List Char → Option (Setting × List Char)
  | 0, _ => none
  | fuel + 1, cs =>
    match cs with
    | '[' :: r => (readItems? fuel r).map fun (items, r) => (.list items, r)
    | '{' :: r =>
      match skipGap r with
      | '}' :: r => some (.table [], r)
      | r => (readInline? fuel [] r).map fun (es, r) => (.table (closeEntries es), r)
    | '"' :: _ => (readString? cs).map fun (s, r) => (.text s, r)
    | '\'' :: _ => (readString? cs).map fun (s, r) => (.text s, r)
    | cs => readWord? cs

/-- The items of a list after its bracket or a comma. -/
def readItems? : Nat → List Char → Option (List Setting × List Char)
  | 0, _ => none
  | fuel + 1, cs => do
    match ← skipLines? (cs.length + 1) cs with
    | ']' :: r => return ([], r)
    | r =>
      let (s, r) ← readValue? fuel r
      match ← skipLines? (r.length + 1) r with
      | ',' :: r =>
        let (ss, r) ← readItems? fuel r
        return (s :: ss, r)
      | ']' :: r => return ([s], r)
      | _ => none

/-- The entries of a table in braces, after its brace or a comma. -/
def readInline? : Nat → Entries → List Char → Option (Entries × List Char)
  | 0, _, _ => none
  | fuel + 1, es, cs => do
    let (path, r) ← readKey? (cs.length + 1) cs
    match r with
    | '=' :: r =>
      let (s, r) ← readValue? fuel (skipGap r)
      let es ← addValue? path s es
      match skipGap r with
      | ',' :: r => readInline? fuel es r
      | '}' :: r => return (es, r)
      | _ => none
    | _ => none

end

/-! ## Lines -/

/-- The lines of a text; `at'` is the path of the last head. -/
def readLinesInto? : Nat → List String → Entries → List Char → Option Entries
  | 0, _, _, _ => none
  | fuel + 1, at', es, cs => do
    match ← skipLines? (cs.length + 1) cs with
    | [] => return es
    | '[' :: '[' :: r =>
      let (path, r) ← readKey? (r.length + 1) r
      match r with
      | ']' :: ']' :: r => readLinesInto? fuel path (← addToList? path es) (← endLine? r)
      | _ => none
    | '[' :: r =>
      let (path, r) ← readKey? (r.length + 1) r
      match r with
      | ']' :: r => readLinesInto? fuel path (← addTable? path es) (← endLine? r)
      | _ => none
    | r =>
      let (path, r) ← readKey? (r.length + 1) r
      match r with
      | '=' :: r =>
        let (s, r) ← readValue? (r.length + 1) (skipGap r)
        let es ← current? (addValue? path s) at' es
        readLinesInto? fuel at' es (← endLine? r)
      | _ => none

end Toml

namespace Setting

/-- The settings of a TOML text. -/
def ofToml? (text : List Char) : Option Setting :=
  (Toml.readLinesInto? (text.length + 1) [] [] text).map fun es => table (Toml.closeEntries es)

end Setting

end TreeSift
