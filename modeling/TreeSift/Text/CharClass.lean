import TreeSift.Unicode.Property

/-!
# TreeSift.Text.CharClass

The classes of characters that the expression language and its neighbours ask about.

1. Every class is defined on all of Unicode.  ASCII characters are decided by comparison alone, so
   evaluating a class on them never looks into a property table.
2. `isBlank` is the class of blanks that are trimmed from the ends of texts.
-/

namespace TreeSift

namespace CharClass

/-- The class with ASCII decided by the first test and the rest by the set. -/
def decideBy (ascii : Char → Bool) (rest : CharSet) (c : Char) : Bool :=
  if c.toNat < 128 then ascii c else rest.has c

/-- A blank: space, tab, line feed, vertical tab, form feed, carriage return, or one of the
non-ASCII characters with the white space property. -/
def isBlank (c : Char) : Bool :=
  let n := c.toNat
  decide (n = 0x20) || (decide (9 ≤ n) && decide (n ≤ 13)) || decide (n = 0x85) ||
    decide (n = 0xA0) || decide (n = 0x1680) || (decide (0x2000 ≤ n) && decide (n ≤ 0x200A)) ||
    decide (n = 0x2028) || decide (n = 0x2029) || decide (n = 0x202F) || decide (n = 0x205F) ||
    decide (n = 0x3000)

/-- A blank of ASCII: space, tab, line feed, form feed or carriage return.  Vertical tab is none. -/
def isAsciiBlank (c : Char) : Bool :=
  c == ' ' || c == '\t' || c == '\n' || c == '\r' || c == '\x0c'

/-- A control character. -/
def isControl (c : Char) : Bool :=
  decide (c.toNat < 0x20) || (decide (0x7F ≤ c.toNat) && decide (c.toNat ≤ 0x9F))

/-- A letter, or another character with the alphabetic property. -/
def isAlphabetic (c : Char) : Bool := decideBy Char.isAlpha Unicode.alphabetic c

/-- A character of a numeric category. -/
def isNumeric (c : Char) : Bool := decideBy Char.isDigit Unicode.numeric c

/-- An alphabetic or numeric character. -/
def isAlphanumeric (c : Char) : Bool := isAlphabetic c || isNumeric c

/-- A character that is shown as itself inside a quoted text. -/
def isPrintable (c : Char) : Bool :=
  decideBy (fun c => decide (0x20 ≤ c.toNat) && decide (c.toNat < 0x7F)) Unicode.printable c

/-- A character that attaches to the one before it. -/
def isGraphemeExtend (c : Char) : Bool := decideBy (fun _ => false) Unicode.graphemeExtend c

/-- A hexadecimal digit in either case. -/
def isHexDigit (c : Char) : Bool := (CharSet.hexDigit? c).isSome

end CharClass

namespace Text

/-- The characters without the blanks at the start. -/
def trimStart (cs : List Char) : List Char := cs.dropWhile CharClass.isBlank

/-- The characters without the blanks at the end. -/
def trimEnd (cs : List Char) : List Char := (cs.reverse.dropWhile CharClass.isBlank).reverse

/-- The characters without the blanks at either end. -/
def trim (cs : List Char) : List Char := trimEnd (trimStart cs)

/-- The number of bytes the characters take in UTF-8. -/
def byteLength (cs : List Char) : Nat := cs.foldl (fun n c => n + c.utf8Size) 0

/-- The pieces between separators; there is one more piece than there are separators. -/
def splitAt (sep : Char) : List Char → List (List Char)
  | [] => [[]]
  | c :: cs =>
    if c = sep then [] :: splitAt sep cs
    else
      match splitAt sep cs with
      | [] => [[c]]
      | p :: ps => (c :: p) :: ps

/-- The text without a given start, if it starts so. -/
def dropPrefix? (start : List Char) (cs : List Char) : Option (List Char) :=
  match start, cs with
  | [], cs => some cs
  | _ :: _, [] => none
  | s :: ss, c :: cs => if s = c then dropPrefix? ss cs else none

/-- Whether the first text occurs somewhere in the second. -/
def isInfix (part : List Char) : List Char → Bool
  | [] => part.isEmpty
  | c :: cs => (dropPrefix? part (c :: cs)).isSome || isInfix part cs

/-- The texts joined with a separator between neighbours. -/
def joinWith (sep : List Char) : List (List Char) → List Char
  | [] => []
  | [t] => t
  | t :: ts => t ++ sep ++ joinWith sep ts

/-- Lower case for ASCII letters; other characters stay. -/
def lowerAscii (cs : List Char) : List Char := cs.map Char.toLower

end Text

end TreeSift
