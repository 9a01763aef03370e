import TreeSift.Number.Read
import TreeSift.Pattern.Flags

/-!
# TreeSift.Pattern.Escape

What a backslash and the characters after it stand for.

1. A backslash before an ASCII character that is neither a letter nor a digit, `<` or `>` stands
   for that character.
2. `\x`, `\u` and `\U` take two, four or eight hexadecimal digits, or any number of them in braces.
3. Digits would refer back to a group, which patterns cannot do; other letters without a meaning
   are refused too.
-/

namespace TreeSift

namespace Pattern

/-- What an escape stands for. -/
inductive Escape where
  /-- One character; `octet` says that it was given as one byte, by two digits. -/
  | char (c : Char) (octet : Bool)
  /-- One of a set. -/
  | set (s : CharSet)
  /-- A condition on the place. -/
  | look (l : Look)

namespace Escape

/-- The character of a run of hexadecimal digits. -/
def ofHex? (digits : List Char) : Option Char :=
  (Number.readBase? 16 digits).bind CharSet.scalar?

/-- A fixed number of hexadecimal digits; ignored text may stand between them. -/
def fixedDigits? (f : Flags) : Nat → List Char → Option (List Char × List Char)
  | 0, cs => some ([], cs)
  | n + 1, cs =>
    match cs with
    | [] => none
    | c :: r =>
      if CharClass.isHexDigit c then
        (fixedDigits? f n (f.skip r)).map fun (ds, rest) => (c :: ds, rest)
      else none

/-- The characters up to a closing brace; ignored text may stand between them. -/
def braced? (f : Flags) : Nat → List Char → Option (List Char × List Char)
  | 0, _ => none
  | fuel + 1, cs =>
    match f.skip cs with
    | [] => none
    | '\x7d' :: r => some ([], r)
    | c :: r => (braced? f fuel r).map fun (ds, rest) => (c :: ds, rest)

/-- A character given by its code point, after the letter that announces so many digits. -/
def readHex? (f : Flags) (digits : Nat) (cs : List Char) : Option (Escape × List Char) :=
  match f.skip cs with
  | '\x7b' :: r =>
    (braced? f (r.length + 1) r).bind fun (ds, rest) =>
      (ofHex? ds).map fun c => (.char c false, rest)
  | r =>
    (fixedDigits? f digits r).bind fun (ds, rest) =>
      (ofHex? ds).map fun c => (.char c (digits == 2), rest)

/-- A property, after its `p` or `P`. -/
def readProperty? (f : Flags) (negated : Bool) (cs : List Char) : Option (Escape × List Char) :=
  match f.skip cs with
  | [] => none
  | '\x7b' :: r =>
    (braced? f (r.length + 1) r).bind fun (name, rest) =>
      (f.property? negated name).map fun s => (.set s, rest)
  | c :: r => if c = '\\' then none else (f.property? negated [c]).map fun s => (.set s, r)

/-- The letters and dashes that come next; ignored text may stand between them. -/
def lookName (f : Flags) : Nat → List Char → List Char × List Char
  | 0, cs => ([], cs)
  | fuel + 1, cs =>
    match cs with
    | [] => ([], [])
    | c :: r =>
      if c.isAlpha || c == '-' then
        let (name, rest) := lookName f fuel (f.skip r)
        (c :: name, rest)
      else ([], cs)

/-- What follows `\b`: the kind of boundary in braces, if a letter or a dash is first in them. -/
def readBoundary? (f : Flags) (cs : List Char) : Option (Escape × List Char) :=
  match cs with
  | '\x7b' :: r =>
    match f.skip r with
    | [] => none
    | c :: r =>
      if c.isAlpha || c == '-' then
        match lookName f (r.length + 2) (c :: r) with
        | (name, '\x7d' :: rest) =>
          let l? := if name = "start".toList then some (Look.wordStart f.words)
            else if name = "end".toList then some (Look.wordEnd f.words)
            else if name = "start-half".toList then some (Look.wordStartHalf f.words)
            else if name = "end-half".toList then some (Look.wordEndHalf f.words)
            else none
          l?.map fun l => (.look l, rest)
        | _ => none
      else some (.look (.wordBoundary f.words), cs)
  | _ => some (.look (.wordBoundary f.words), cs)

/-- Whether a backslash makes the character stand for itself. -/
def isEscapable (c : Char) : Bool :=
  decide (c.toNat < 128) && !c.isAlphanum && c != '<' && c != '>'

/-- The escape after a backslash. -/
def read? (f : Flags) (cs : List Char) : Option (Escape × List Char) :=
  match cs with
  | [] => none
  | c :: r =>
    if isEscapable c then some (.char c false, r)
    else
      match c with
      | 'x' => readHex? f 2 r
      | 'u' => readHex? f 4 r
      | 'U' => readHex? f 8 r
      | 'p' => readProperty? f false r
      | 'P' => readProperty? f true r
      | 'a' => some (.char '\x07' false, r)
      | 'f' => some (.char '\x0c' false, r)
      | 't' => some (.char '\t' false, r)
      | 'n' => some (.char '\n' false, r)
      | 'r' => some (.char '\r' false, r)
      | 'v' => some (.char '\x0b' false, r)
      | 'A' => some (.look .start, r)
      | 'z' => some (.look .stop, r)
      | 'b' => readBoundary? f r
      | 'B' => some (.look (.notWordBoundary f.words), r)
      | '<' => some (.look (.wordStart f.words), r)
      | '>' => some (.look (.wordEnd f.words), r)
      | c => (f.shorthand? c).map fun s => (.set s, r)

/-- Whether a character may be written so: a byte beyond ASCII needs `u`. -/
def isAllowed (f : Flags) (c : Char) (octet : Bool) : Bool :=
  f.unicode || !octet || decide (c.toNat < 128)

end Escape

end Pattern

end TreeSift
