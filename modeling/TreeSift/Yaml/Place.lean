/-!
# TreeSift.Yaml.Place

Places in YAML text, and what may be skipped there.

1. A place knows the text from there on, how many characters came before it, its line, and its
   column.  Line breaks are line feed, carriage return, both together, next line, and the two
   Unicode separators.
2. A break is read as one line feed, except that the Unicode separators stand for themselves.
3. A gap is a run of blanks and breaks.  Without a break it counts as it stands; with one, a single
   break becomes a blank and of several the first is dropped.
-/

namespace TreeSift

namespace Yaml

/-! ## Characters -/

/-- Space or tab. -/
def isBlank (c : Char) : Bool := c == ' ' || c == '\t'

/-- A character that breaks a line. -/
def isBreak (c : Char) : Bool :=
  c == '\n' || c == '\r' || c == '\u0085' || c == '\u2028' || c == '\u2029'

/-- A character of names of anchors and tags. -/
def isNameChar (c : Char) : Bool := c.isAlphanum || c == '_' || c == '-'

/-- The character that may mark the start of a text. -/
def byteOrderMark : Char := '\ufeff'

/-- A character that may stand in a document at all. -/
def isAllowed (c : Char) : Bool :=
  let n := c.toNat
  n == 9 || n == 10 || n == 13 || (32 ≤ n && n ≤ 126) || n == 0x85 ||
    (0xA0 ≤ n && n ≤ 0xFFFD) || 0x10000 ≤ n

/-- Whether a blank, a break or the end comes first. -/
def atGap : List Char → Bool
  | [] => true
  | c :: _ => isBlank c || isBreak c

/-- Whether a break or the end comes first. -/
def atLineEnd : List Char → Bool
  | [] => true
  | c :: _ => isBreak c

/-! ## Places -/

/-- A place in a text. -/
structure Place where
  /-- The text from there on. -/
  rest : List Char
  /-- How many characters came before. -/
  index : Nat
  /-- How many breaks came before. -/
  line : Nat
  /-- How many characters came before on the line. -/
  column : Nat
deriving Inhabited

namespace Place

/-- The start of a text. -/
def start (text : List Char) : Place := ⟨text, 0, 0, 0⟩

/-- The place so many characters on, all of them on the line. -/
def advance (p : Place) (n : Nat) : Place :=
  { p with rest := p.rest.drop n, index := p.index + n, column := p.column + n }

/-- The place after the characters of a class, and those characters. -/
def takeWhile (p : Place) (keep : Char → Bool) : List Char × Place :=
  let taken := p.rest.takeWhile keep
  (taken, p.advance taken.length)

/-- The place after the characters of a class. -/
def skipWhile (p : Place) (skip : Char → Bool) : Place := (p.takeWhile skip).2

/-- The break that comes first, as it is read, and the place after it. -/
def takeBreak (p : Place) : List Char × Place :=
  let after := fun (n : Nat) (r : List Char) => (⟨r, p.index + n, p.line + 1, 0⟩ : Place)
  match p.rest with
  | '\r' :: '\n' :: r => (['\n'], after 2 r)
  | c :: r =>
    if c = '\u2028' ∨ c = '\u2029' then ([c], after 1 r)
    else if isBreak c then (['\n'], after 1 r)
    else ([], p)
  | [] => ([], p)

/-- The place after a comment, if one comes first. -/
def skipComment (p : Place) : Place :=
  match p.rest with
  | '#' :: _ => p.skipWhile fun c => !isBreak c
  | _ => p

/-- Whether three equal characters and a gap stand at the start of a line. -/
def atMarker (p : Place) (c : Char) : Bool :=
  p.column == 0 && p.rest.take 3 == [c, c, c] && atGap (p.rest.drop 3)

/-- Whether a document starts or ends here. -/
def atDocumentMark (p : Place) : Bool := p.atMarker '-' || p.atMarker '.'

end Place

/-! ## Gaps -/

/-- A run of blanks and breaks. -/
inductive Gap where
  /-- Blanks only. -/
  | blanks (text : List Char)
  /-- A first break, and the breaks after it. -/
  | lines (first more : List Char)
deriving Inhabited

namespace Gap

/-- Whether the gap reaches into another line. -/
def breaks : Gap → Bool
  | blanks _ => false
  | lines _ _ => true

/-- What the gap counts as. -/
def fold : Gap → List Char
  | blanks text => text
  | lines ['\n'] [] => [' ']
  | lines ['\n'] more => more
  | lines first more => first ++ more

/-- Reads on over a gap.  `margin` is the column that a tab after a break has to have reached. -/
def readOn? (margin : Nat) : Nat → Gap → Place → Option (Gap × Place)
  | 0, g, p => some (g, p)
  | fuel + 1, g, p =>
    match p.rest with
    | [] => some (g, p)
    | c :: _ =>
      if isBlank c then
        match g with
        | blanks text => readOn? margin fuel (blanks (text ++ [c])) (p.advance 1)
        | lines first more =>
          if c = '\t' ∧ p.column < margin then none
          else readOn? margin fuel (lines first more) (p.advance 1)
      else if isBreak c then
        let (b, q) := p.takeBreak
        match g with
        | blanks _ => readOn? margin fuel (lines b []) q
        | lines first more => readOn? margin fuel (lines first (more ++ b)) q
      else some (g, p)

/-- The gap at a place. -/
def read? (margin : Nat) (p : Place) : Option (Gap × Place) :=
  readOn? margin p.rest.length (blanks []) p

end Gap

end Yaml

end TreeSift
