import TreeSift.Pattern.Basic
import TreeSift.Text.CharClass
import TreeSift.Unicode.CaseFolding

/-!
# TreeSift.Pattern.Flags

The switches that change how pattern text is read, and the sets of characters they choose between.

1. `i` folds case, `m` lets `^` and `$` stand at lines, `s` lets `.` take line ends, `R` makes a
   carriage return end lines too, `x` skips blanks and comments, `u` (on at first) means Unicode.
   `U` swaps greed, which no match depends on.
2. Without `u` a set may only hold ASCII characters, and a property has no members.
-/

namespace TreeSift

namespace Pattern

/-- The switches at some place of a pattern text. -/
structure Flags where
  ignoreCase : Bool := false
  multiLine : Bool := false
  dotAll : Bool := false
  crlf : Bool := false
  extended : Bool := false
  unicode : Bool := true
deriving Repr, Inhabited, DecidableEq

namespace Flags

/-- Sets the switch of a letter, if the letter has one. -/
def set? (f : Flags) (letter : Char) (on : Bool) : Option Flags :=
  match letter with
  | 'i' => some { f with ignoreCase := on }
  | 'm' => some { f with multiLine := on }
  | 's' => some { f with dotAll := on }
  | 'R' => some { f with crlf := on }
  | 'x' => some { f with extended := on }
  | 'u' => some { f with unicode := on }
  | 'U' => some f
  | _ => none

/-- ASCII letters together with their other case. -/
def foldAscii (s : CharSet) : CharSet :=
  let shift := fun lo hi (by' : Int) =>
    (s.inter (CharSet.range lo hi)).ranges.map fun r =>
      ((r.1 + by').toNat, (r.2 + by').toNat)
  CharSet.ofRanges (s.ranges ++ shift 0x41 0x5A 32 ++ shift 0x61 0x7A (-32))

/-- A set closed under case, if case is ignored. -/
def fold (f : Flags) (s : CharSet) : CharSet :=
  if f.ignoreCase then (if f.unicode then s.foldCase else foldAscii s) else s

/-- A set closed under case and maybe complemented; without `u` it has to be ASCII. -/
def close? (f : Flags) (negated : Bool) (s : CharSet) : Option CharSet :=
  let s := f.fold s
  let s := if negated then s.compl else s
  if f.unicode || s.isAscii then some s else none

/-! ## Sets by name -/

/-- ASCII digits. -/
def asciiDigits : CharSet := CharSet.range 0x30 0x39

/-- ASCII blanks. -/
def asciiBlanks : CharSet := CharSet.ofRanges [(9, 13), (0x20, 0x20)]

/-- ASCII letters, digits and the underscore. -/
def asciiWords : CharSet := CharSet.ofRanges [(0x30, 0x39), (0x41, 0x5A), (0x5F, 0x5F), (0x61, 0x7A)]

/-- The characters words are made of. -/
def words (f : Flags) : CharSet := if f.unicode then Unicode.wordChars else asciiWords

/-- The set of `d`, `s` or `w`, or its complement for the capital letter. -/
def shorthand? (f : Flags) (letter : Char) : Option CharSet :=
  let choose := fun (negated : Bool) (wide narrow : CharSet) =>
    let s := if f.unicode then wide else narrow
    let s := if negated then s.compl else s
    if f.unicode || s.isAscii then some s else none
  match letter with
  | 'd' => choose false Unicode.digits asciiDigits
  | 'D' => choose true Unicode.digits asciiDigits
  | 's' => choose false Unicode.blanks asciiBlanks
  | 'S' => choose true Unicode.blanks asciiBlanks
  | 'w' => choose false Unicode.wordChars asciiWords
  | 'W' => choose true Unicode.wordChars asciiWords
  | _ => none

/-- The set of a name between `[:` and `:]`. -/
def asciiClass? (name : String) : Option CharSet :=
  let rows : List (String × List (Nat × Nat)) := [
    ("alnum", [(0x30, 0x39), (0x41, 0x5A), (0x61, 0x7A)]),
    ("alpha", [(0x41, 0x5A), (0x61, 0x7A)]),
    ("ascii", [(0, 0x7F)]),
    ("blank", [(9, 9), (0x20, 0x20)]),
    ("cntrl", [(0, 0x1F), (0x7F, 0x7F)]),
    ("digit", [(0x30, 0x39)]),
    ("graph", [(0x21, 0x7E)]),
    ("lower", [(0x61, 0x7A)]),
    ("print", [(0x20, 0x7E)]),
    ("punct", [(0x21, 0x2F), (0x3A, 0x40), (0x5B, 0x60), (0x7B, 0x7E)]),
    ("space", [(9, 13), (0x20, 0x20)]),
    ("upper", [(0x41, 0x5A)]),
    ("word", [(0x30, 0x39), (0x41, 0x5A), (0x5F, 0x5F), (0x61, 0x7A)]),
    ("xdigit", [(0x30, 0x39), (0x41, 0x46), (0x61, 0x66)])]
  (rows.find? fun r => r.1 == name).map fun r => CharSet.ofRanges r.2

/-- The set of a property, given by name alone or as `name=value`, `name:value` or `name!=value`. -/
def property? (f : Flags) (negated : Bool) (text : List Char) : Option CharSet :=
  if !f.unicode then none
  else
    let s? := match splitAtNotEqual text with
      | some (name, value) => Unicode.valued? name value
      | none =>
        match splitAtFirst ':' text with
        | some (name, value) => Unicode.valued? name value
        | none =>
          match splitAtFirst '=' text with
          | some (name, value) => Unicode.valued? name value
          | none => Unicode.named? text
    s?.bind (f.close? negated)
where
  /-- Both sides of the first `!=`. -/
  splitAtNotEqual : List Char → Option (List Char × List Char)
    | '!' :: '=' :: r => some ([], r)
    | c :: r => (splitAtNotEqual r).map fun (a, b) => (c :: a, b)
    | [] => none
  /-- Both sides of the first place of a character. -/
  splitAtFirst (sep : Char) (cs : List Char) : Option (List Char × List Char) :=
    match cs.dropWhile (· != sep) with
    | [] => none
    | _ :: r => some (cs.takeWhile (· != sep), r)

/-- The set of `.`, which needs `u`. -/
def dot? (f : Flags) : Option CharSet :=
  if !f.unicode then none
  else if f.dotAll then some CharSet.full
  else if f.crlf then some (CharSet.ofRanges [(10, 10), (13, 13)]).compl
  else some (CharSet.singleton '\n').compl

/-- The pattern of one character. -/
def literal (f : Flags) (c : Char) : Pattern :=
  if f.ignoreCase && (f.unicode || decide (c.toNat < 128)) then .chars (f.fold (CharSet.singleton c))
  else .chars (CharSet.singleton c)

/-! ## Skipping -/

/-- The text without blanks and comments in front; `comment` says whether it starts inside one. -/
def skipIgnored (comment : Bool) : List Char → List Char
  | [] => []
  | c :: cs =>
    if comment then skipIgnored (c != '\n') cs
    else if CharClass.isBlank c then skipIgnored false cs
    else if c = '#' then skipIgnored true cs
    else c :: cs

/-- The text from its next significant character on. -/
def skip (f : Flags) (cs : List Char) : List Char := if f.extended then skipIgnored false cs else cs

end Flags

end Pattern

end TreeSift
